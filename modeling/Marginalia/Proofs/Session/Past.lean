import Marginalia.Proofs.Session.Steps

/-! # The past of a session
What a session does depends on its current run alone: not on the runs before it, and not on the failures
before. So a session with some more runs before its own (`Session.behind`) does the same as it would
without them, step by step and over every history; only its hosts stand further on
(`SessionStep.shift`). -/

namespace Marginalia

open File

/-- The same step, at a host that stands so many places further on. -/
def SessionStep.shift (count : Nat) : SessionStep → SessionStep
  | .message place said => .message (count + place) said
  | .hold place said => .hold (count + place) said
  | .exit place code troubleText requested => .exit (count + place) code troubleText requested
  | step => step

namespace Session

/-- A session with some more runs before its own, and with a failure before its own. -/
def behind (session : Session) (past : List HostedRun) (failure : Option Failure) : Session :=
  { session with
    runs := past ++ session.runs
    current := session.current.map (past.length + ·)
    lastFailure := session.lastFailure.or failure }

variable (session : Session) (past : List HostedRun) (earlier : Option Failure)

/-! ## Runs at their places -/

@[simp] theorem runAt?_behind (place : Nat) :
    (session.behind past earlier).runAt? (past.length + place) = session.runAt? place := by
  have beyond : ¬ past.length + place < past.length := by omega
  simp [behind, runAt?, List.getElem?_append, beyond]

@[simp] theorem setRun_behind (place : Nat) (run : Run) :
    (session.behind past earlier).setRun (past.length + place) run =
      (session.setRun place run).behind past earlier := by
  have same (change : HostedRun → HostedRun) (runs : List HostedRun) :
      (past ++ runs).modify (past.length + place) change = past ++ runs.modify place change := by
    induction past with
    | nil => simp
    | cons first past ih => simpa [Nat.succ_add] using ih
  simp [setRun, behind, same]

/-- Ending the current run. -/
theorem stopRun_behind :
    (session.behind past earlier).stopRun =
      (session.stopRun.1.behind past earlier, session.stopRun.2) := by
  cases current : session.current with
  | none => simp [stopRun, behind, current]
  | some place =>
    let alone : Session := { session with current := none }
    have here : (session.behind past earlier).current = some (past.length + place) := by
      simp [behind, current]
    have same : ({ session.behind past earlier with current := none } : Session) =
        alone.behind past earlier := rfl
    simp only [stopRun, here, current, same, runAt?_behind]
    cases alone.runAt? place with
    | none => rfl
    | some run => simp only [setRun_behind, alone]

/-! ## Events and failures -/

theorem fail_behind (runId : Int) (failure : Failure) :
    (session.behind past earlier).fail runId failure =
      ((session.fail runId failure).1.behind past earlier, (session.fail runId failure).2) := by
  have number : (session.behind past earlier).runId = session.runId := rfl
  rw [fail_eq, fail_eq, number]
  split <;> rfl

theorem failAll_behind (runId : Int) (failures : List Failure) :
    (session.behind past earlier).failAll runId failures =
      ((session.failAll runId failures).1.behind past earlier, (session.failAll runId failures).2) := by
  induction failures generalizing session with
  | nil => rfl
  | cons failure failures ih => simp only [failAll, fail_behind, ih]

theorem applyQueued_behind (event : Event) :
    (session.behind past earlier).applyQueued event =
      ((session.applyQueued event).1.behind past earlier, (session.applyQueued event).2) := by
  have stale : (session.behind past earlier).isStale event.runId = session.isStale event.runId := rfl
  have margin : (session.behind past earlier).margin = session.margin := rfl
  rw [applyQueued, applyQueued, apply, apply, stale, margin]
  cases session.isStale event.runId with
  | true => rfl
  | false =>
    cases session.margin.refuses event with
    | true => rfl
    | false => cases event.fault? <;> rfl

theorem applyAll_behind (events : List Event) :
    (session.behind past earlier).applyAll events =
      ((session.applyAll events).1.behind past earlier, (session.applyAll events).2) := by
  induction events generalizing session with
  | nil => rfl
  | cons event events ih => simp only [applyAll, applyQueued_behind, ih]

/-- Taking what a run reports. -/
theorem absorb_behind (place : Nat) (run : Run) (report : RunReport) :
    (session.behind past earlier).absorb (past.length + place) run report =
      ((session.absorb place run report).1.behind past earlier, (session.absorb place run report).2) := by
  simp only [absorb, setRun_behind, applyAll_behind, failAll_behind]

/-! ## Submitting and closing -/

/-- Clearing the session for a submission. -/
theorem cleared_behind (base : Option Path) (document : DocumentChange) :
    (session.behind past earlier).cleared base document =
        (session.cleared base document).behind past earlier ∧
      (session.behind past earlier).clearedReport base document = session.clearedReport base document := by
  let moved : Session :=
    { (session.setContext base document).1 with runId := session.runId + 1 }
  have stopped := moved.stopRun_behind past earlier
  have same : ({ ((session.behind past earlier).setContext base document).1 with
      runId := session.runId + 1 } : Session) = moved.behind past earlier := rfl
  have number : ((session.behind past earlier).setContext base document).1.runId = session.runId := rfl
  have own : (session.setContext base document).1.runId = session.runId := rfl
  constructor
  · simp only [cleared, renew, number, own, same, stopped]
    rfl
  · simp only [clearedReport, renew, number, own, same, stopped]
    rfl

/-- One more run. -/
theorem withNewest_behind (hosted : HostedRun) (current : Option Nat) :
    (session.behind past earlier).withNewest hosted (current.map (past.length + ·)) =
      (session.withNewest hosted current).behind past earlier := by
  simp [withNewest, behind]

/-- Submitting a text. -/
theorem submit_behind (tree : Tree) (pipe : Pipe) (text : List Char) (base : Option Path)
    (document : DocumentChange) :
    (session.behind past earlier).submit tree pipe text base document =
      ((session.submit tree pipe text base document).1.behind past earlier,
        (session.submit tree pipe text base document).2) := by
  cases closed : session.closed with
  | true =>
    have still : (session.behind past earlier).closed = true := closed
    rw [submit_of_closed closed, submit_of_closed still]
  | false =>
    have still : (session.behind past earlier).closed = false := closed
    obtain ⟨cleared, report⟩ := session.cleared_behind past earlier base document
    have setting : ((session.behind past earlier).cleared base document).setting tree =
        (session.cleared base document).setting tree := by rw [cleared]; rfl
    cases prepared : Preparation.document ((session.cleared base document).setting tree) text with
    | error error =>
      rw [submit_of_lookup closed prepared, submit_of_lookup still (setting ▸ prepared), cleared, report]
    | ok result =>
      obtain ⟨code, logs⟩ := result
      cases fault : pipe.startFault with
      | some reason =>
        rw [submit_of_fault closed prepared fault, submit_of_fault still (setting ▸ prepared) fault,
          cleared, report]
        let opened := session.cleared base document
        have newest := opened.withNewest_behind past earlier
          ⟨(opened.newRun pipe).start.1.terminate.1, opened.context.base⟩ none
        exact congrArg
          (fun after : Session => ({ after with lastFailure := some (.notStarted reason) }, _, _)) newest
      | none =>
        rw [submit_of_start closed prepared fault, submit_of_start still (setting ▸ prepared) fault,
          cleared, report]
        let opened := session.cleared base document
        have newest := opened.withNewest_behind past earlier
          ⟨((opened.newRun pipe).start.1.feed code).1, opened.context.base⟩ (some opened.runs.length)
        have length : (opened.behind past earlier).runs.length = past.length + opened.runs.length :=
          List.length_append
        rw [length]
        exact congrArg (·, _, _) newest

/-- Closing. -/
theorem close_behind :
    (session.behind past earlier).close = (session.close.1.behind past earlier, session.close.2) := by
  have same : (session.behind past earlier).closed = session.closed := rfl
  rw [close, close, same]
  cases session.closed with
  | true => rfl
  | false =>
    have stopped := ({ session with closed := true, runId := session.runId + 1 } : Session).stopRun_behind
      past earlier
    have ended : ({ session.behind past earlier with closed := true, runId := session.runId + 1 } :
        Session).stopRun = _ := stopped
    simp only [Bool.false_eq_true, if_false]
    exact congrArg (fun stopped => (stopped.1, _ ++ stopped.2)) ended

/-! ## Steps -/

/-- A step does the same with some more runs before. -/
theorem step_behind (step : SessionStep) :
    (session.behind past earlier).step (step.shift past.length) =
      ((session.step step).1.behind past earlier, (session.step step).2) := by
  cases step with
  | submit tree startFault capacity text base document =>
    simp only [SessionStep.shift, Session.step, submit_behind]
  | close => exact session.close_behind past earlier
  | setContext base document => rfl
  | message place said =>
    simp only [SessionStep.shift, Session.step, receive, runAt?_behind]
    cases session.runAt? place with
    | none => rfl
    | some run =>
      cases taken : run.receive said with
      | error fault => simp [taken, bind, Except.bind, Except.toOption]
      | ok result =>
        simp [taken, bind, Except.bind, pure, Except.pure, Except.toOption, absorb_behind]
  | hold place said =>
    simp only [SessionStep.shift, Session.step, runAt?_behind]
    cases session.runAt? place with
    | none => rfl
    | some run =>
      cases taken : run.receive said with
      | error fault => simp [taken]
      | ok result => simp [taken]
  | exit place code troubleText requested =>
    simp only [SessionStep.shift, Session.step, hostExited, runAt?_behind]
    cases session.runAt? place with
    | none => rfl
    | some run => simp only [absorb_behind]
  | failure runId failure => exact session.fail_behind past earlier runId failure
  | event event => exact session.applyQueued_behind past earlier event
  | listen listener => rfl
  | listenFailures listener => rfl

/-- **The past has no say.** Over every history a session reports the same, step by step, with some more
runs before its own, and it ends up as it would without them behind those runs. -/
theorem history_behind (history : List SessionStep) :
    (session.behind past earlier).reports (history.map (·.shift past.length)) = session.reports history ∧
      (session.behind past earlier).afterSteps (history.map (·.shift past.length)) =
        (session.afterSteps history).behind past earlier := by
  induction history generalizing session with
  | nil => exact ⟨rfl, rfl⟩
  | cons step history ih =>
    obtain ⟨reports, after⟩ := ih (session.step step).1
    rw [List.map_cons, reports_cons, afterSteps_cons, step_behind]
    exact ⟨congrArg _ reports, after⟩

end Session

end Marginalia

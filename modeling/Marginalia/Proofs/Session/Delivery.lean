import Marginalia.Proofs.Session.Failures

/-! # A session at work
From the moment at which the host of a document is spawned until the session is looked at, the session is at
work on the document (`Session.AtWork`): its current run, which passes its failures on under the current number,
is the one that the host is heard for. What is heard of the host changes this run alone, and a failure is
remembered only if the exit of a host that was up is noted to its end. -/

namespace Marginalia

/-- Whether a message says that there is nothing more to report. -/
def Message.isDrained (message : Message) : Bool := decide (message.type? = some .drained)

/-- A message that is taken drains the run if it says so, and does nothing else to it; one that is not taken
does not say so. -/
theorem Run.receive_spec (run : Run) (message : Message) :
    (∃ error, run.receive message = .error error ∧ message.isDrained = false) ∨
      ∃ report, run.receive message = .ok ({ run with drained := run.drained || message.isDrained }, report) ∧
        report.failures = [] := by
  by_cases last : message.type? = some .drained
  · right
    refine ⟨.none, ?_, rfl⟩
    rw [receive, if_pos last]
    simp [Message.isDrained, last]
  · have more : message.isDrained = false := by simpa [Message.isDrained] using last
    rw [receive, if_neg last, more, Bool.or_false]
    cases message.toEvent run.id with
    | error fault =>
      dsimp only
      split
      · exact .inr ⟨_, rfl, rfl⟩
      · exact .inl ⟨_, rfl, rfl⟩
    | ok reported =>
      cases reported with
      | none => exact .inr ⟨_, rfl, rfl⟩
      | some event =>
        dsimp only
        cases run.fault? event with
        | none => exact .inr ⟨_, rfl, failures_report run event⟩
        | some fault => exact .inl ⟨_, rfl, rfl⟩

namespace Session

/-- A session whose current run is the one at a place, and whether a failure is remembered. -/
structure AtWork (session : Session) (place : Nat) (run : Run) (failed : Bool) : Prop where
  /-- The current run is the one at the place. -/
  current : session.current = some place
  /-- It is known. -/
  found : session.runAt? place = some run
  /-- It has the current number. -/
  id : run.id = session.runId
  /-- It passes failures on. -/
  passes : run.passesFailures = true
  /-- A failure is remembered or not. -/
  lastFailure : session.lastFailure.isSome = failed

section AtWork

variable {session : Session} {place : Nat} {run : Run} {failed : Bool}

/-- A session at work is drained if its run is. -/
theorem AtWork.drained_eq (atWork : session.AtWork place run failed) : session.drained = run.drained := by
  rw [Session.drained, currentRun?, atWork.current, Option.bind_some, atWork.found]
  rfl

/-- A run that is put back stays at work. -/
theorem AtWork.setRun (atWork : session.AtWork place run failed) {later : Run} (id : later.id = run.id)
    (passes : later.passesFailures = run.passesFailures) : (session.setRun place later).AtWork place later failed where
  current := atWork.current
  found := by rw [runAt?_setRun, if_pos rfl, atWork.found, Option.map_some]
  id := id.trans atWork.id
  passes := passes.trans atWork.passes
  lastFailure := atWork.lastFailure

/-- A run whose report is taken stays at work, and a failure in the report is remembered. -/
theorem AtWork.absorb (atWork : session.AtWork place run failed) {later : Run} (id : later.id = run.id)
    (passes : later.passesFailures = run.passesFailures) (report : RunReport) :
    (session.absorb place later report).1.AtWork place later (!report.failures.isEmpty || failed) := by
  obtain ⟨lastFailure, after⟩ := session.absorb_fst place later report
  have placed := atWork.setRun id passes
  have reported := (session.reports_absorb place later report).last
  rw [if_pos (id.trans atWork.id)] at reported
  refine ⟨?_, ?_, ?_, placed.passes, ?_⟩
  · rw [after]
    exact atWork.current
  · rw [after]
    exact placed.found
  · rw [after]
    exact placed.id
  · rw [reported, ← atWork.lastFailure]
    cases report.failures <;> simp

/-- A message that is taken drains the run at work if it says so; one that is not taken does not say so. -/
theorem AtWork.receive (atWork : session.AtWork place run failed) (message : Message) :
    (∃ error, session.receive place message = .error error ∧ message.isDrained = false) ∨
      ∃ step, session.receive place message = .ok step ∧
        step.1.AtWork place { run with drained := run.drained || message.isDrained } failed := by
  rcases run.receive_spec message with ⟨error, refused, more⟩ | ⟨report, taken, quiet⟩
  · refine .inl ⟨error, ?_, more⟩
    simp [Session.receive, atWork.found, refused, bind, Except.bind]
  · refine .inr ⟨session.absorb place { run with drained := run.drained || message.isDrained } report, ?_, ?_⟩
    · simp [Session.receive, atWork.found, taken, bind, Except.bind, pure, Except.pure]
    · let later : Run := { run with drained := run.drained || message.isDrained }
      have sameId : later.id = run.id := rfl
      have absorbed := atWork.absorb sameId rfl report
      rw [quiet] at absorbed
      exact absorbed

/-- Once nothing more comes of the host, the run at work is drained, and over if that is noted. -/
theorem AtWork.hostLeft (atWork : session.AtWork place run failed) (ends : Bool) :
    (session.hostLeft place ends).AtWork place (run.hostLeft ends) failed := by
  rw [Session.hostLeft, atWork.found]
  exact atWork.setRun rfl rfl

/-- The exit of a host that nobody asked to go ends the run at work, and it is a failure if the host was up. -/
theorem AtWork.hostExited (atWork : session.AtWork place run failed) (code : Option Int) (troubleText : String) :
    (session.hostExited place code troubleText false).1.AtWork place
      { run with pipe := { run.pipe with troubleText }, state := .terminated, drained := true }
      (run.isLive || failed) := by
  rcases session.step_exit place code troubleText false with ⟨absent, -⟩ |
    ⟨same, gone, report, found, result, isGone, -, failures⟩
  · cases atWork.found.symm.trans absent
  · obtain rfl : run = same := Option.some.inj (atWork.found.symm.trans found)
    have exited : session.hostExited place code troubleText false = session.absorb place gone report := result
    -- A run at work passes its failures on, so the report has one exactly if the host was up.
    have reported : (!report.failures.isEmpty) = run.isLive := by
      rw [failures]
      cases run.isLive <;> simp [atWork.passes]
    have sameId : gone.id = run.id := by rw [isGone]
    have absorbed := atWork.absorb sameId (by rw [isGone]) report
    rw [exited, ← isGone, ← reported]
    exact absorbed

/-- The run at work is entered once its host is up. -/
theorem AtWork.enterRun (atWork : session.AtWork place run failed) :
    (session.enterRun place).1.AtWork place run.enter.1 failed := by
  have kept : run.enter.1.id = run.id ∧ run.enter.1.passesFailures = run.passesFailures := by
    rw [Run.enter, Run.goFrom]
    split <;> exact ⟨rfl, rfl⟩
  rw [Session.enterRun, atWork.found]
  exact atWork.setRun kept.1 kept.2

/-- The run at work is sent a document. -/
theorem AtWork.feedRun (atWork : session.AtWork place run failed) (running : run.state = .running)
    (code : List Char) :
    ∃ after report, session.feedRun ⟨place, code⟩ = (after, report,
        match (run.deliver code).2.2 with
        | .ok delivery => .ok ⟨session.runId, place, delivery⟩
        | .error error => .error (.run error)) ∧
      after.AtWork place (run.deliver code).1 failed := by
  obtain ⟨sent, nextLine, ended, sentRun, -⟩ := run.deliver_spec code running
  refine ⟨session.setRun place (run.deliver code).1, .ofLogs (run.deliver code).2.1.logs, ?_, ?_⟩
  · cases fed : (run.deliver code).2.2 <;> simp only [Session.feedRun, atWork.found, fed]
  · rw [sentRun]
    exact atWork.setRun rfl rfl

/-- Noting that a submission is sent moves the run at work on. -/
theorem AtWork.conclude (atWork : session.AtWork place run failed) (runId : Int) (delivery : Run.Delivery) :
    (session.conclude ⟨runId, place, delivery⟩).1.AtWork place (run.conclude delivery).1 failed := by
  have kept : (run.conclude delivery).1.id = run.id ∧
      (run.conclude delivery).1.passesFailures = run.passesFailures := by
    rw [Run.conclude_fst]
    split <;> exact ⟨rfl, rfl⟩
  simp only [Session.conclude, atWork.found]
  exact atWork.setRun kept.1 kept.2

end AtWork

/-- A session that launched a document without a failure before it is at work on it. -/
theorem atWork_addRun {cleared : Session} (trouble : cleared.lastFailure = none) (pipe : Pipe) :
    (cleared.addRun pipe).AtWork cleared.runs.length (cleared.newRun pipe) false where
  current := rfl
  found := by rw [addRun_eq, runAt?_withNewest_self]
  id := rfl
  passes := rfl
  lastFailure := congrArg Option.isSome trouble

end Session

end Marginalia

import Marginalia.Proofs.Session.Sound

/-! # One live host
At most one host of a session is not told to end, and it is the newest one. Beside a history runs
the answer of the last submission that was not refused (`Session.lastAnswer`): a host that is not told
to end belongs to a submission that returned its number or broke off while its document was fed. -/

namespace Marginalia

open File

namespace Session

/-! ## The answer of the last submission -/

/-- The answer of the last submission that was not refused, after a step. -/
def answerAfter (session : Session) (answer : Option (Except SessionError Int)) :
    SessionStep → Option (Except SessionError Int)
  | .submit tree startFault capacity text base document =>
    if session.closed then answer
    else some (session.submit tree (.fresh startFault capacity) text base document).2.2
  | _ => answer

/-- The answer of the last submission that was not refused, after some steps in order. -/
def lastAnswer (session : Session) (before : Option (Except SessionError Int)) :
    List SessionStep → Option (Except SessionError Int)
  | [] => before
  | step :: others => (session.step step).1.lastAnswer (session.answerAfter before step) others

/-- An answer of a submission that started its host: it returned its number, or broke off while the document was
fed. -/
def IsStarted (answer : Option (Except SessionError Int)) : Prop :=
  (∃ number, answer = some (.ok number)) ∨ ∃ fault, answer = some (.error (.run (.numeral fault)))

/-- A session has a current run only if the last submission started its host. -/
theorem isStarted_step {session : Session} {before : Option (Except SessionError Int)}
    (started : session.current ≠ none → IsStarted before) (step : SessionStep)
    (current : (session.step step).1.current ≠ none) : IsStarted (session.answerAfter before step) := by
  cases supersedes : step.supersedes with
  | false =>
    have same : session.answerAfter before step = before := by
      cases step with
      | submit | close => simp [SessionStep.supersedes] at supersedes
      | _ => rfl
    rw [same]
    rw [(session.goesOn_step step supersedes).1.current] at current
    exact started current
  | true =>
    cases closed : session.closed with
    | true =>
      rw [step_of_closed closed supersedes] at current
      cases step with
      | submit tree startFault capacity text base document =>
        simpa only [answerAfter, closed, if_true] using started current
      | close => exact started current
      | _ => simp [SessionStep.supersedes] at supersedes
    | false =>
      cases step with
      | submit tree startFault capacity text base document =>
        obtain ⟨runs, context, after, -⟩ := session.cleared_spec base document
        rcases submit_cases closed tree (.fresh startFault capacity) text base document with
          ⟨error, result, -⟩ | ⟨hosted, lastFailure, error, result, -⟩ | ⟨hosted, -, answer | ⟨fault, answer⟩, -⟩
        · simp [Session.step, result, after] at current
        · simp [Session.step, result, withNewest] at current
        · simp [answerAfter, closed, answer, IsStarted]
        · simp [answerAfter, closed, answer, IsStarted]
      | close =>
        obtain ⟨runs, after, -⟩ := close_of_open closed
        simp [Session.step, after] at current
      | _ => simp [SessionStep.supersedes] at supersedes

theorem isStarted_afterSteps {session : Session} {before : Option (Except SessionError Int)}
    (started : session.current ≠ none → IsStarted before) (history : List SessionStep)
    (current : (session.afterSteps history).current ≠ none) : IsStarted (session.lastAnswer before history) := by
  induction history generalizing session before with
  | nil => exact started current
  | cons step history ih => exact ih (isStarted_step started step) current

/-! ## Hosts that are told to end -/

/-- Every host but the newest is told to end. -/
theorem Sound.told_of_mem_dropLast {session : Session} (sound : session.Sound) {hosted : HostedRun}
    (member : hosted ∈ session.runs.dropLast) : hosted.run.pipe.terminated = true := by
  obtain ⟨place, within, rfl⟩ := List.mem_iff_getElem.mp member
  rw [List.getElem_dropLast]
  rw [List.length_dropLast] at within
  have found := session.runAt?_eq_getElem (by omega : place < session.runs.length)
  refine (sound.ended place _ found fun current => ?_).2
  -- The current run is the newest, and this one is not.
  have newest := sound.newest place current
  omega

/-- Without a current run, every host is told to end. -/
theorem Sound.told_of_current_none {session : Session} (sound : session.Sound)
    (alone : session.current = none) {hosted : HostedRun} (member : hosted ∈ session.runs) :
    hosted.run.pipe.terminated = true := by
  obtain ⟨place, within, rfl⟩ := List.mem_iff_getElem.mp member
  exact (sound.ended place _ (session.runAt?_eq_getElem within) (by simp [alone])).2

/-- If the newest host is not told to end, its run is the current one. -/
theorem Sound.current_of_newest {session : Session} (sound : session.Sound) {hosted : HostedRun}
    (newest : session.runs.getLast? = some hosted) (live : hosted.run.pipe.terminated = false) :
    session.current ≠ none := by
  intro alone
  have told := sound.told_of_current_none alone (List.mem_of_getLast? newest)
  rw [live] at told
  simp at told

/-- No step of a closed session makes a run or opens it. -/
theorem closed_step {session : Session} (closed : session.closed = true) (step : SessionStep) :
    (session.step step).1.closed = true ∧ (session.step step).1.runs.length = session.runs.length := by
  cases supersedes : step.supersedes with
  | false =>
    have goesOn := (session.goesOn_step step supersedes).1
    exact ⟨goesOn.closed.trans closed, goesOn.length⟩
  | true =>
    rw [step_of_closed closed supersedes]
    exact ⟨closed, rfl⟩

theorem closed_afterSteps {session : Session} (closed : session.closed = true)
    (history : List SessionStep) :
    (session.afterSteps history).closed = true ∧
      (session.afterSteps history).runs.length = session.runs.length := by
  induction history generalizing session with
  | nil => exact ⟨closed, rfl⟩
  | cons step history ih =>
    obtain ⟨stillClosed, sameRuns⟩ := closed_step closed step
    obtain ⟨atEnd, runsAtEnd⟩ := ih stillClosed
    exact ⟨atEnd, runsAtEnd.trans sameRuns⟩

/-- A step makes no run, or it is a submission to an open session that adds one run behind all those
that are left of the session, each of them told to end before. -/
theorem step_makes_run {session : Session} (sound : session.Sound) (step : SessionStep) :
    (session.step step).1.runs.length = session.runs.length ∨
      ∃ tree startFault capacity text base document hosted,
        step = .submit tree startFault capacity text base document ∧ session.closed = false ∧
        (∀ earlier ∈ (session.cleared base document).runs, earlier.run.pipe.terminated = true) ∧
        (session.step step).1.runs = (session.cleared base document).runs ++ [hosted] := by
  cases supersedes : step.supersedes with
  | false => exact .inl (session.goesOn_step step supersedes).1.length
  | true =>
    cases closed : session.closed with
    | true =>
      left
      rw [step_of_closed closed supersedes]
    | false =>
      cases step with
      | submit tree startFault capacity text base document =>
        obtain ⟨runs, context, after, length, -⟩ := session.cleared_spec base document
        have alone : (session.cleared base document).current = none := by rw [after]
        have told (earlier : HostedRun) (member : earlier ∈ (session.cleared base document).runs) :
            earlier.run.pipe.terminated = true :=
          (sound.cleared base document).told_of_current_none alone member
        rcases submit_cases closed tree (.fresh startFault capacity) text base document with
          ⟨error, result, -⟩ | ⟨hosted, lastFailure, error, result, -⟩ | ⟨hosted, result, -⟩
        · left
          simp only [Session.step, result, after, length]
        · right
          refine ⟨tree, startFault, capacity, text, base, document, hosted, rfl, rfl, told, ?_⟩
          simp only [Session.step, result]
          rfl
        · right
          refine ⟨tree, startFault, capacity, text, base, document, hosted, rfl, rfl, told, ?_⟩
          simp only [Session.step, result]
          rfl
      | close =>
        obtain ⟨runs, after, length, -⟩ := close_of_open closed
        left
        simp only [Session.step, after, length]
      | _ => simp [SessionStep.supersedes] at supersedes

/-- A session that is closed is closed. -/
theorem closed_close (session : Session) : session.close.1.closed = true := by
  cases closed : session.closed with
  | true => rw [close_of_closed closed, closed]
  | false =>
    obtain ⟨runs, after, -⟩ := close_of_open closed
    rw [after]

end Session

/-- **At most one live host.** After every history of a session, and for every step that may follow:
a new run is made only when the hosts of all earlier ones are told to end; every host but the newest
is told to end; the newest is not told to end only if the session is open and the last submission
that was not refused returned its number, unless that one broke off while its document was fed; and once
the session is closed, every host is told to end and no run is ever made again. -/
theorem at_most_one_live_host (settings : Settings) (given : Option Margin) (base : Option Path)
    (document : DocumentChange) (history : List SessionStep) :
    let first := (Session.create settings given base document).1
    let session := first.afterSteps history
    (∀ step, (session.step step).1.runs.length = session.runs.length ∨
      ∃ tree startFault capacity text base document hosted,
        step = .submit tree startFault capacity text base document ∧ session.closed = false ∧
        (∀ earlier ∈ (session.cleared base document).runs, earlier.run.pipe.terminated = true) ∧
        (session.step step).1.runs = (session.cleared base document).runs ++ [hosted]) ∧
      (∀ hosted ∈ session.runs.dropLast, hosted.run.pipe.terminated = true) ∧
      (∀ hosted, session.runs.getLast? = some hosted → hosted.run.pipe.terminated = false →
        session.closed = false ∧
          ((∃ number, first.lastAnswer none history = some (.ok number)) ∨
            ∃ fault, first.lastAnswer none history = some (.error (.run (.numeral fault))))) ∧
      (session.step .close).1.closed = true ∧
      (session.closed = true → ∀ later,
        (session.afterSteps later).closed = true ∧
        (session.afterSteps later).runs.length = session.runs.length ∧
        ∀ hosted ∈ (session.afterSteps later).runs, hosted.run.pipe.terminated = true) := by
  intro first session
  have soundFirst : first.Sound := Session.sound_create settings given base document
  have sound : session.Sound := soundFirst.afterSteps history
  refine ⟨Session.step_makes_run sound, fun hosted member => sound.told_of_mem_dropLast member, ?_,
    session.closed_close, ?_⟩
  · intro hosted newest live
    have current := sound.current_of_newest newest live
    refine ⟨?_, ?_⟩
    · cases closed : session.closed with
      | true => exact absurd (sound.closed closed) current
      | false => rfl
    · have fresh : first.current = none := rfl
      exact Session.isStarted_afterSteps (fun started => absurd fresh started) history current
  · intro closed later
    obtain ⟨stillClosed, sameRuns⟩ := Session.closed_afterSteps closed later
    have soundLater := sound.afterSteps later
    exact ⟨stillClosed, sameRuns,
      fun hosted member => soundLater.told_of_current_none (soundLater.closed stillClosed) member⟩

end Marginalia

import Marginalia.Proofs.Session.Hosts
import Marginalia.Proofs.Run.Feeding
import Marginalia.Proofs.Session.Past

/-! # Submissions that fail
A submission fails if the session is closed, if the document cannot be prepared, or if the host cannot be
started. A closed session stays as it is. Any other session recovers (`Session.Recovers`): it has a new
number, an empty margin and no run that goes on, and whatever happens to it later goes as in a session
that is set up anew (`Session.anew`). -/

namespace Marginalia

open File

namespace Session

/-! ## A cleared session -/

/-- A submission clears the session in the changed context. -/
theorem context_cleared (session : Session) (base : Option Path) (document : DocumentChange) :
    (session.cleared base document).context = changeContext session.context base document := by
  obtain ⟨runs, stopped, -⟩ :=
    ({ (session.setContext base document).1 with runId := session.runId + 1 } : Session).stopRun_spec
  have number : (session.setContext base document).1.runId = session.runId := rfl
  simp only [cleared, renew, number, stopped]
  rfl

/-- Documents are prepared in the changed context, with the settings of the session. -/
theorem setting_cleared (session : Session) (tree : Tree) (base : Option Path)
    (document : DocumentChange) :
    (session.cleared base document).setting tree =
      ⟨tree, changeContext session.context base document,
        session.settings.consoleFunctions.map String.toList⟩ := by
  obtain ⟨runs, context, after, -⟩ := session.cleared_spec base document
  have settings : (session.cleared base document).settings = session.settings := by rw [after]
  rw [setting, context_cleared, settings]

/-- Clearing a session reports no failure, and the empty margin to every listener. -/
theorem clearedReport_spec (session : Session) (base : Option Path) (document : DocumentChange) :
    (session.clearedReport base document).failures = [] ∧
      (session.clearedReport base document).published =
        session.margin.listeners.map fun listener => (listener, []) := by
  obtain ⟨runs, stopped, -, -, logs, report⟩ :=
    ({ (session.setContext base document).1 with runId := session.runId + 1 } : Session).stopRun_spec
  have number : (session.setContext base document).1.runId = session.runId := rfl
  simp only [clearedReport, renew, number, stopped, report]
  exact ⟨rfl, rfl⟩

/-- Nothing that is reported before the host of a submission is started is a failure. -/
theorem failures_announced (session : Session) (base : Option Path) (document : DocumentChange)
    (text : List Char) (logs : List Log.Record) (report : SessionReport) :
    (session.clearedReport base document ++ (session.cleared base document).announcement text logs ++
      report).failures = report.failures := by
  rw [SessionReport.failures_append, SessionReport.failures_append,
    (session.clearedReport_spec base document).1]
  rfl

/-! ## A session set up anew -/

/-- A session that is set up anew, with the settings, the receivers, the context and the number of
another. -/
def anew (session : Session) : Session :=
  { (create session.settings none none .keep).1 with
    margin := { session.margin with annotations := [] }
    runId := session.runId
    context := session.context
    failureListeners := session.failureListeners }

/-- An open session with an empty margin and without a current run is one that is set up anew, behind the
runs and the failure that it remembers. -/
theorem anew_behind {session : Session} (empty : session.margin.annotations = [])
    (alone : session.current = none) (opened : session.closed = false) :
    session.anew.behind session.runs session.lastFailure = session := by
  obtain ⟨settings, ⟨limit, annotations, listeners, refused⟩, lastFailure, runs, current, runId, closed,
    context, failureListeners⟩ := session
  obtain rfl : annotations = [] := empty
  obtain rfl : current = none := alone
  obtain rfl : closed = false := opened
  have all : runs ++ [] = runs := List.append_nil runs
  have last : (none : Option Failure).or lastFailure = lastFailure := Option.none_or
  simp only [behind, anew, create, setContext, all, last, Option.map_none]

/-! ## Recovering -/

/-- What is left of a session by a submission that fails, in the context of the submission. -/
structure Recovers (before after : Session) (context : Module.Context) : Prop where
  /-- The number goes up by one. -/
  runId : after.runId = before.runId + 1
  /-- The margin is empty, and nothing else of it changes. -/
  margin : after.margin = { before.margin with annotations := [] }
  /-- No run goes on. -/
  idle : after.state = .idle
  /-- Every run is over, its host told to end. -/
  ended : ∀ hosted ∈ after.runs, hosted.run.state = .terminated ∧ hosted.run.pipe.terminated = true
  /-- The session is open. -/
  opened : after.closed = false
  /-- The context is that of the submission. -/
  context : after.context = context
  /-- The settings stay. -/
  settings : after.settings = before.settings
  /-- The receivers of failures stay. -/
  failureListeners : after.failureListeners = before.failureListeners
  /-- The next submission goes as in a session that is set up anew. -/
  submit : ∀ tree pipe text base document, after.submit tree pipe text base document =
    ((after.anew.submit tree pipe text base document).1.behind after.runs after.lastFailure,
      (after.anew.submit tree pipe text base document).2)
  /-- So does everything that happens later. -/
  history : ∀ history,
    after.reports (history.map (·.shift after.runs.length)) = after.anew.reports history ∧
      after.afterSteps (history.map (·.shift after.runs.length)) =
        (after.anew.afterSteps history).behind after.runs after.lastFailure

/-- A session recovers if all that it keeps of itself, once it is cleared, are its runs and its last
failure. -/
theorem Recovers.of_cleared {session after : Session} {base : Option Path} {document : DocumentChange}
    (opened : session.closed = false) (sound : after.Sound) {runs : List HostedRun}
    {lastFailure : Option Failure}
    (same : after = { session.cleared base document with runs, current := none, lastFailure }) :
    session.Recovers after (changeContext session.context base document) := by
  have alone : after.current = none := by rw [same]
  obtain ⟨cleanRuns, context, cleared, -⟩ := session.cleared_spec base document
  have changed := session.context_cleared base document
  have margin : after.margin = { session.margin with annotations := [] } := by rw [same, cleared]
  have stillOpen : after.closed = false := by rw [same, cleared, opened]
  have isAnew := anew_behind (congrArg Margin.annotations margin) alone stillOpen
  refine
    { runId := by rw [same, cleared]
      margin := margin
      idle := by rw [state, currentRun?, alone]; rfl
      ended := fun hosted member => ?_
      opened := stillOpen
      context := by rw [same, changed]
      settings := by rw [same, cleared]
      failureListeners := by rw [same, cleared]
      submit := fun tree pipe text base document => ?_
      history := fun history => ?_ }
  · obtain ⟨place, within, rfl⟩ := List.mem_iff_getElem.mp member
    exact sound.ended place _ (after.runAt?_eq_getElem within) (by simp [alone])
  · have next := after.anew.submit_behind after.runs after.lastFailure tree pipe text base document
    rwa [isAnew] at next
  · have later := after.anew.history_behind after.runs after.lastFailure history
    rwa [isAnew] at later

/-- A submission whose host is started returns its number, unless feeding breaks off. -/
theorem answer_submit_of_start {session : Session} (opened : session.closed = false) {tree : Tree} {pipe : Pipe}
    {text : List Char} {base : Option Path} {document : DocumentChange} {code : List Char} {logs : List Log.Record}
    (prepared : Preparation.document ((session.cleared base document).setting tree) text = .ok (code, logs))
    (fine : pipe.startFault = none) :
    let answer := (session.submit tree pipe text base document).2.2
    (¬ pipe.BreaksOff code 1 → answer = .ok (session.runId + 1)) ∧
      (pipe.BreaksOff code 1 → ∃ fault, answer = .error (.run (.numeral fault))) := by
  intro answer
  obtain ⟨runs, _, cleared, -⟩ := session.cleared_spec base document
  have number : (session.cleared base document).runId = session.runId + 1 := by rw [cleared]
  generalize begun : ((session.cleared base document).newRun pipe).start.1 = started
  -- The document is prepared and the host started, so the answer is that of feeding.
  have fed {count : Nat} (result : (started.feed code).2.2 = .ok count) : answer = .ok (session.runId + 1) := by
    simp only [answer, submit_of_start opened prepared fine, begun, number, result]
  have broken {error : RunError} (result : (started.feed code).2.2 = .error error) : answer = .error (.run error) := by
    simp only [answer, submit_of_start opened prepared fine, begun, result]
  have running : started = { (session.cleared base document).newRun pipe with state := .running } := by
    rw [← begun, newRun, Run.start_fresh _ true fine]
  have samePipe : started.pipe = pipe := by rw [running]; rfl
  have first : started.nextLine = 1 := by rw [running]; rfl
  have breaks : started.pipe.BreaksOff code started.nextLine ↔ pipe.BreaksOff code 1 := by rw [samePipe, first]
  rw [← breaks]
  rcases delivered : started.deliver code with ⟨after, report, error | delivery⟩
  · have unfed := broken (congrArg (·.2.2) (Run.feed_of_broken delivered))
    refine ⟨fun goesOn => ?_, fun breaksOff => ?_⟩
    · obtain ⟨delivery, whole⟩ := Run.exists_delivery (by rw [running]) goesOn
      rw [delivered] at whole
      cases whole
    · obtain ⟨fault, failed⟩ := Run.exists_fault (by rw [running]) breaksOff
      rw [delivered] at failed
      obtain rfl : error = .numeral fault := Except.error.inj failed
      exact ⟨fault, unfed⟩
  · refine ⟨fun _ => fed (congrArg (·.2.2) (Run.feed_of_delivered delivered)), fun breaksOff => ?_⟩
    obtain ⟨fault, failed⟩ := Run.exists_fault (by rw [running]) breaksOff
    rw [delivered] at failed
    cases failed

end Session

/-- **Failing submissions leave the session sound**, after every history. A closed session refuses a
submission and stays as it is. In an open one, a submission fails exactly if the document cannot be
prepared or, after that, the host cannot be started, unless the document is one on which feeding breaks off. No
failure is reported in the first case; in the second, the failure is given once to every receiver of failures,
also behind one that fails, and it is the last failure. In both, the session recovers. -/
theorem failed_submission_leaves_sound (settings : Settings) (given : Option Margin)
    (base : Option Path) (document : DocumentChange) (history : List SessionStep) :
    let session := (Session.create settings given base document).1.afterSteps history
    ∀ tree startFault capacity text base document,
      let submitted := session.submit tree (.fresh startFault capacity) text base document
      let context := Session.changeContext session.context base document
      (session.closed = true → submitted = (session, .none, .error .closed)) ∧
      (session.closed = false →
        (match Preparation.document ⟨tree, context, session.settings.consoleFunctions.map String.toList⟩ text,
            startFault with
          | .error error, _ =>
            submitted.2.2 = .error (.lookup error) ∧ submitted.2.1.failures = [] ∧
              submitted.1.lastFailure = session.lastFailure ∧
              submitted.1.runs.length = session.runs.length
          | .ok _, some reason =>
            submitted.2.2 = .error (.run (.notStarted reason)) ∧
              submitted.2.1.failures =
                session.failureListeners.map (fun listener => (listener, .notStarted reason)) ∧
              submitted.1.lastFailure = some (.notStarted reason)
          | .ok (code, _), none =>
            (¬ (Pipe.fresh none capacity).BreaksOff code 1 → submitted.2.2 = .ok (session.runId + 1)) ∧
              ((Pipe.fresh none capacity).BreaksOff code 1 →
                ∃ fault, submitted.2.2 = .error (.run (.numeral fault)))) ∧
        ∀ error, submitted.2.2 = .error error → (∀ fault, error ≠ .run (.numeral fault)) →
          session.Recovers submitted.1 context) := by
  intro session tree startFault capacity text base document submitted context
  have sound : session.Sound := (Session.sound_create settings given _ _).afterSteps history
  have soundAfter : submitted.1.Sound := sound.step (.submit tree startFault capacity text base document)
  refine ⟨fun closed => Session.submit_of_closed closed _ _ _ _ _, fun opened => ?_⟩
  obtain ⟨runs, _, cleared, length, -⟩ := session.cleared_spec base document
  have quiet := (session.clearedReport_spec base document).1
  have number : (session.cleared base document).runId = session.runId + 1 := by rw [cleared]
  have receivers : (session.cleared base document).failureListeners = session.failureListeners := by
    rw [cleared]
  rw [← session.setting_cleared tree base document]
  cases prepared : Preparation.document ((session.cleared base document).setting tree) text with
  | error error =>
    have outcome : submitted = _ := Session.submit_of_lookup opened prepared
    refine ⟨?_, fun _ _ _ => ?_⟩
    · rw [outcome]
      exact ⟨rfl, quiet, by rw [cleared], by rw [cleared, ← length]⟩
    · have same : submitted.1 =
          { session.cleared base document with runs, current := none, lastFailure := session.lastFailure } := by
        rw [outcome, cleared]
      exact .of_cleared opened soundAfter same
  | ok result =>
    obtain ⟨code, logs⟩ := result
    cases startFault with
    | some reason =>
      have outcome : submitted = _ := Session.submit_of_fault opened prepared rfl
      refine ⟨?_, fun _ _ _ => ?_⟩
      · rw [outcome]
        refine ⟨rfl, ?_, rfl⟩
        rw [Session.failures_announced, Session.failures_failureReport, receivers]
      · have same : submitted.1 =
            { session.cleared base document with
              runs := submitted.1.runs, current := none, lastFailure := some (.notStarted reason) } := by
          rw [outcome]
          rfl
        exact .of_cleared opened soundAfter same
    | none =>
      have fine : (Pipe.fresh none capacity).startFault = none := rfl
      have answers := Session.answer_submit_of_start opened prepared fine
      refine ⟨answers, fun error failed other => ?_⟩
      by_cases breaks : (Pipe.fresh none capacity).BreaksOff code 1
      · obtain ⟨fault, broken⟩ := answers.2 breaks
        exact absurd (Except.error.inj (failed.symm.trans broken)) (other fault)
      · cases failed.symm.trans (answers.1 breaks)

end Marginalia

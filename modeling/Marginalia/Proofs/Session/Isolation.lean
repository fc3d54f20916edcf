import Marginalia.Proofs.Session.Sound

/-! # Isolation of runs
The margin of a session shows the current run and nothing else. Beside a history runs an account of
where the annotations come from (`Provenance`): the annotations that were there when the last
submission emptied the margin, and the events applied since that carried the number that was current
when they were applied. The margin is always those events put into those annotations, whatever else
happened. -/

namespace Marginalia

open File

/-! ## A margin and its listeners -/

namespace Margin

/-- What a classified event does to a margin does not depend on its listeners, and it changes the
annotations alone. -/
theorem applyClassified_spec (margin : Margin) (event : Event) :
    ∃ annotations, ∀ listeners,
      (({ margin with listeners } : Margin).applyClassified event).1 =
        { margin with annotations, listeners } := by
  cases kind : event.payload.kind? with
  | none =>
    refine ⟨margin.annotations, fun listeners => ?_⟩
    simp only [applyClassified, kind]
  | some kind' =>
    cases described : event.payload.describe? margin.limit with
    | none =>
      refine ⟨margin.annotations, fun listeners => ?_⟩
      simp only [applyClassified, kind, described]
    | some texts =>
      let note := margin.annotate event.line kind' texts.1 texts.2
      let annotations := putNote note margin.annotations
      refine ⟨annotations, fun listeners => ?_⟩
      have same : ({ margin with listeners } : Margin).annotate event.line kind' texts.1 texts.2 = note :=
        rfl
      simp only [applyClassified, kind, described, same]
      rfl

/-- What an event does to a margin does not depend on its listeners, and it changes the annotations
alone. -/
theorem take_spec (margin : Margin) (event : Event) :
    ∃ annotations, ∀ listeners,
      ({ margin with listeners } : Margin).take event = { margin with annotations, listeners } := by
  by_cases refused : margin.refuses event = true
  · refine ⟨margin.annotations, fun listeners => ?_⟩
    have same : ({ margin with listeners } : Margin).refuses event = true := refused
    rw [take, if_pos same]
  · have accepted (listeners : List Listener) :
        ¬ ({ margin with listeners } : Margin).refuses event = true := refused
    rcases kept : event.classify? with fault | ⟨_ | classified, logs⟩
    · refine ⟨margin.annotations, fun listeners => ?_⟩
      rw [take, if_neg (accepted listeners), update_of_error kept]
    · refine ⟨margin.annotations, fun listeners => ?_⟩
      rw [take, if_neg (accepted listeners)]
      simp only [update, kept]
    · obtain ⟨annotations, applied⟩ := margin.applyClassified_spec classified
      refine ⟨annotations, fun listeners => ?_⟩
      rw [take, if_neg (accepted listeners)]
      simp only [update, kept]
      exact applied listeners

/-- What some events do to a margin does not depend on its listeners, and they change the
annotations alone. -/
theorem takeAll_spec (margin : Margin) (events : List Event) :
    ∃ annotations, ∀ listeners,
      ({ margin with listeners } : Margin).takeAll events = { margin with annotations, listeners } := by
  induction events generalizing margin with
  | nil => exact ⟨margin.annotations, fun listeners => rfl⟩
  | cons event events ih =>
    obtain ⟨first, one⟩ := margin.take_spec event
    obtain ⟨annotations, all⟩ := ih { margin with annotations := first }
    refine ⟨annotations, fun listeners => ?_⟩
    rw [takeAll_cons, one listeners]
    exact all listeners

end Margin

/-! ## Where annotations come from -/

/-- Where the annotations of a margin come from: those that were there at the start, and the events
put into them since. -/
structure Provenance where
  /-- The annotations at the start. -/
  start : List Annotation
  /-- The events applied since, in the order of their application. -/
  events : List Event
  deriving Repr

/-- A margin with the annotations that a provenance gives in place of its own. -/
def Provenance.into (source : Provenance) (margin : Margin) : Margin :=
  ({ margin with annotations := source.start } : Margin).takeAll source.events

namespace Session

/-- The provenance after a step. A submission that is not refused starts anew; any other step adds
the events that it applies and that carry the number current at that moment. -/
def provenanceAfter (session : Session) (source : Provenance) : SessionStep → Provenance
  | .submit .. => if session.closed then source else ⟨[], []⟩
  | step =>
    { source with
      events := source.events ++ (session.offered step).filter (·.runId = session.runId) }

/-- The provenance after some steps in order. -/
def provenance (session : Session) (source : Provenance) : List SessionStep → Provenance
  | [] => source
  | step :: others => (session.step step).1.provenance (session.provenanceAfter source step) others

/-- A step that is no submission adds the events that it applies to the provenance. -/
theorem provenanceAfter_of_other (session : Session) (source : Provenance) {step : SessionStep}
    (other : step.supersedes = false) :
    session.provenanceAfter source step =
      { source with
        events := source.events ++ (session.offered step).filter (·.runId = session.runId) } := by
  cases step with
  | submit | close => simp [SessionStep.supersedes] at other
  | _ => rfl

/-- A submission that is not refused empties the margin and leaves the rest of it alone. -/
theorem margin_submit {session : Session} (accepted : session.closed = false) (tree : Tree) (pipe : Pipe)
    (text : List Char) (base : Option Path) (document : DocumentChange) :
    (session.submit tree pipe text base document).1.margin = { session.margin with annotations := [] } := by
  obtain ⟨runs, context, after, -⟩ := session.cleared_spec base document
  have emptied : (session.cleared base document).margin = { session.margin with annotations := [] } := by
    rw [after]
  rcases submit_cases accepted tree pipe text base document with
    ⟨error, result, -⟩ | ⟨hosted, lastFailure, error, result, -⟩ | ⟨hosted, result, -⟩
  · rw [result, emptied]
  · rw [result]
    exact emptied
  · rw [result]
    exact emptied

/-- A step keeps the margin in line with its provenance. -/
theorem margin_step {session : Session} {first : Margin} {source : Provenance}
    (inLine : ∃ listeners, session.margin = { source.into first with listeners })
    (step : SessionStep) :
    ∃ listeners, (session.step step).1.margin =
      { (session.provenanceAfter source step).into first with listeners } := by
  obtain ⟨before, inLine⟩ := inLine
  by_cases other : step.supersedes = false
  · obtain ⟨-, listeners, applied⟩ := session.goesOn_step step other
    -- The margin and its provenance take the same events; only the listeners may differ.
    let events := (session.offered step).filter (·.runId = session.runId)
    obtain ⟨annotations, taken⟩ := (source.into first).takeAll_spec events
    have grown : (session.provenanceAfter source step).into first = (source.into first).takeAll events := by
      rw [provenanceAfter_of_other session source other, Provenance.into, Margin.takeAll_append]
      rfl
    refine ⟨listeners, ?_⟩
    rw [applied, grown, inLine, taken before, taken (source.into first).listeners]
  · cases step with
    | submit tree startFault capacity text base document =>
      cases closed : session.closed with
      | true =>
        refine ⟨before, ?_⟩
        simp only [Session.step, submit_of_closed closed, provenanceAfter, closed, if_true]
        exact inLine
      | false =>
        obtain ⟨annotations, filled⟩ :=
          ({ first with annotations := source.start } : Margin).takeAll_spec source.events
        have given : source.into first = { first with annotations } := filled first.listeners
        refine ⟨before, ?_⟩
        simp only [Session.step, margin_submit closed, provenanceAfter, closed, inLine, given]
        rfl
    | close =>
      refine ⟨before, ?_⟩
      have same : session.close.1.margin = session.margin := by
        cases closed : session.closed with
        | true => rw [close_of_closed closed]
        | false =>
          obtain ⟨runs, after, -⟩ := close_of_open closed
          rw [after]
      simp only [Session.step, same, inLine, provenanceAfter, offered]
      simp
    | _ => simp [SessionStep.supersedes] at other

/-- A history keeps the margin in line with its provenance. -/
theorem margin_afterSteps {session : Session} {first : Margin} {source : Provenance}
    (inLine : ∃ listeners, session.margin = { source.into first with listeners })
    (history : List SessionStep) :
    ∃ listeners, (session.afterSteps history).margin =
      { (session.provenance source history).into first with listeners } := by
  induction history generalizing session source with
  | nil => exact inLine
  | cons step history ih => exact ih (margin_step inLine step)

/-! ## The past is silent -/

/-- A step that changes nothing of the margin and publishes nothing. -/
def Silent (session : Session) (step : SessionStep) : Prop :=
  (session.step step).1.margin = session.margin ∧ (session.step step).2.published = []

/-- An event of the past is silent. -/
theorem silent_event {session : Session} {event : Event} (stale : event.runId ≠ session.runId) :
    session.Silent (.event event) := by
  refine ⟨?_, session.published_applyQueued event stale⟩
  simp [step, applyQueued_fst, stale]

/-- A message is silent if what its run passes on belongs to the past. -/
theorem silent_message {session : Session} {place : Nat} {message : Message}
    (stale : ∀ event ∈ session.offered (.message place message), event.runId ≠ session.runId) :
    session.Silent (.message place message) := by
  rcases session.step_message place message with ⟨same, quiet, -⟩ | ⟨run, after, report, -, -, result,
    offers⟩
  · exact ⟨by rw [same], by rw [quiet]; rfl⟩
  · rw [offers] at stale
    obtain ⟨lastFailure, absorbed⟩ := session.absorb_fst place after report
    have none : report.events.filter (·.runId = session.runId) = [] := by
      simpa using stale
    refine ⟨?_, ?_⟩
    · rw [result, absorbed, none]
      rfl
    · rw [result]
      exact session.published_absorb place after report stale

/-- A message to a run that is not the current one is silent: that run is over and passes on
nothing. -/
theorem silent_message_of_ne_current {session : Session} (sound : session.Sound) {place : Nat}
    (other : session.current ≠ some place) (message : Message) :
    session.Silent (.message place message) := by
  refine silent_message ?_
  rcases session.step_message place message with ⟨-, -, offers⟩ | ⟨run, after, report, found, taken, -,
    offers⟩
  · simp [offers]
  · have past := (sound.ended place run found other).1
    simp [offers, Run.events_of_receive_of_terminated taken past]

/-- A message to a run of an earlier number is silent. -/
theorem silent_message_of_number {session : Session} {place : Nat} {run : Run}
    (found : session.runAt? place = some run) (past : run.id ≠ session.runId) (message : Message) :
    session.Silent (.message place message) := by
  refine silent_message ?_
  rcases session.step_message place message with ⟨-, -, offers⟩ | ⟨same, after, report, foundSame, taken,
    -, offers⟩
  · simp [offers]
  · rw [found, Option.some.injEq] at foundSame
    subst foundSame
    rw [offers]
    intro event member
    rw [Run.runId_of_mem_events taken member]
    exact past

/-- An event that the margin refuses changes nothing, and the events after it are applied as if it
had not come. -/
theorem applyAll_cons_of_refused (session : Session) {event : Event}
    (refused : session.margin.refuses event = true) (events : List Event) :
    (session.applyAll (event :: events)).1 = (session.applyAll events).1 := by
  have lost : (session.applyQueued event).1 = session := by
    rw [applyQueued_fst, Margin.take, if_pos refused, ite_self]
  simp only [applyAll, lost]

/-- Once a run is superseded, by a submission or by closing, its number never becomes current again.
-/
theorem id_lt_of_superseded {first : Session} (sound : first.Sound) {step : SessionStep}
    (opened : first.closed = false) (supersedes : step.supersedes = true) (late : List SessionStep)
    {place : Nat} {run : Run} (found : first.runAt? place = some run) :
    run.id < ((first.step step).1.afterSteps late).runId ∧
      ∃ later, ((first.step step).1.afterSteps late).runAt? place = some later ∧ later.id = run.id := by
  obtain ⟨number, kept⟩ := step_of_open opened supersedes
  obtain ⟨laterNumber, laterKept⟩ := (first.step step).1.runsGoOn_afterSteps late
  obtain ⟨later, foundLater, goesOn⟩ := kept.trans laterKept place run found
  have past := sound.number place run found
  exact ⟨by omega, later, foundLater, goesOn.id⟩

end Session

/-- **Runs are isolated.** After every history of a session, its annotations are the events of its
provenance put into the annotations of its provenance: those applied since the last submission that
was not refused, or since the session was set up, that carried the current number when they were
applied. An event that the margin refuses does not stop the events after it. A message to a run that
is not the current one changes and publishes nothing; and once a submission or closing has
superseded a run, neither a message to it nor an event that it passed on before changes or publishes
anything, however late it comes. -/
theorem margin_shows_current_run (settings : Settings) (given : Option Margin) (base : Option Path)
    (document : DocumentChange) (history : List SessionStep) :
    let first := (Session.create settings given base document).1
    let session := first.afterSteps history
    let source := first.provenance ⟨(given.map (·.annotations)).getD [], []⟩ history
    session.margin.annotations =
        (({ first.margin with annotations := source.start } : Margin).takeAll source.events).annotations ∧
      (∀ event events, session.margin.refuses event = true →
        (session.applyAll (event :: events)).1 = (session.applyAll events).1) ∧
      (∀ place message, session.current ≠ some place → session.Silent (.message place message)) ∧
      (∀ early step late, history = early ++ step :: late → step.supersedes = true →
        (first.afterSteps early).closed = false →
        ∀ place run, (first.afterSteps early).runAt? place = some run →
          (∀ message, session.Silent (.message place message)) ∧
          ∀ event, event.runId = run.id → session.Silent (.event event)) := by
  intro first session source
  have soundFirst : first.Sound := Session.sound_create settings given base document
  have sound : session.Sound := soundFirst.afterSteps history
  have start : first.margin.annotations = (given.map (·.annotations)).getD [] := by
    cases given with
    | none => rfl
    | some margin =>
      have chosen : first.margin = Session.chooseMargin settings (some margin) := rfl
      rw [chosen, Session.chooseMargin]
      split
      · next none => exact (List.isEmpty_iff.mp none).symm
      · rfl
  have inLine : ∃ listeners, first.margin =
      { (⟨(given.map (·.annotations)).getD [], []⟩ : Provenance).into first.margin with listeners } := by
    refine ⟨first.margin.listeners, ?_⟩
    rw [← start]
    rfl
  refine ⟨?_, ?_, ?_, ?_⟩
  · obtain ⟨listeners, shown⟩ := Session.margin_afterSteps inLine history
    have same := congrArg Margin.annotations shown
    exact same
  · exact fun event events refused => session.applyAll_cons_of_refused refused events
  · exact fun place message other => Session.silent_message_of_ne_current sound other message
  · intro early step late split supersedes opened place run found
    have soundEarly : (first.afterSteps early).Sound := soundFirst.afterSteps early
    -- The history is cut at the step that superseded the run.
    have reached : session = ((first.afterSteps early).step step).1.afterSteps late := by
      show first.afterSteps history = _
      rw [split, Session.afterSteps_append]
      rfl
    obtain ⟨past, later, foundLater, sameId⟩ :=
      Session.id_lt_of_superseded soundEarly opened supersedes late found
    rw [← reached] at past foundLater
    refine ⟨fun message => ?_, fun event number => Session.silent_event (by omega)⟩
    exact Session.silent_message_of_number foundLater (by omega) message

end Marginalia

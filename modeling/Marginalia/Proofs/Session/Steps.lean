import Marginalia.Proofs.Run.Protocol
import Marginalia.Session

/-! # Steps of a session
What may happen to a session (`SessionStep`), and what each operation does to its runs, its margin
and its current run, one lemma for each operation. Later results about histories cite these lemmas
and unfold no operation. Two relations carry them: a run *goes on* to a later stage of itself
(`Run.GoesOn`), and a session *goes on* if its runs do and the current run stays the same
(`Session.GoesOn`); only submissions and closing do more than that. -/

namespace Marginalia

open File

/-- What may happen to a session. -/
inductive SessionStep where
  /-- A text is submitted; the host of its run cannot be started if there is a fault, and accepts as
  many commands as its capacity says. -/
  | submit (tree : Tree) (startFault : Option String) (capacity : Option Nat) (text : List Char)
    (base : Option Path) (document : DocumentChange)
  /-- The session is closed, or left. -/
  | close
  /-- The document is evaluated somewhere else from now on. -/
  | setContext (base : Option Path) (document : DocumentChange)
  /-- The host at a place says something, and what its run passes on is applied. -/
  | message (place : Nat) (message : Message)
  /-- The host at a place says something, and what its run passes on waits to be applied. -/
  | hold (place : Nat) (message : Message)
  /-- The host at a place is gone, with a code, its last lines, and whether it was asked to go. -/
  | exit (place : Nat) (code : Option Int) (troubleText : String) (requested : Bool)
  /-- A failure is reported for a run, perhaps late. -/
  | failure (runId : Int) (failure : Failure)
  /-- An event that carries the number of some run is applied, perhaps late. -/
  | event (event : Event)
  /-- A receiver of the margin is added. -/
  | listen (listener : Listener)
  /-- A receiver of failures is added. -/
  | listenFailures (listener : Listener)
  deriving Repr

/-- Whether a step puts an end to the current run, if the session is not closed. -/
def SessionStep.supersedes : SessionStep → Bool
  | .submit .. | .close => true
  | _ => false

/-! ## Events at the margin -/

/-- The margin after an event is applied; an event that it refuses changes nothing. -/
def Margin.take (margin : Margin) (event : Event) : Margin :=
  if margin.refuses event then margin else (margin.update event).1

/-- The margin after some events are applied in order. -/
def Margin.takeAll (margin : Margin) (events : List Event) : Margin := events.foldl Margin.take margin

@[simp] theorem Margin.takeAll_nil (margin : Margin) : margin.takeAll [] = margin := rfl

@[simp] theorem Margin.takeAll_cons (margin : Margin) (event : Event) (events : List Event) :
    margin.takeAll (event :: events) = (margin.take event).takeAll events := rfl

@[simp] theorem Margin.takeAll_append (margin : Margin) (first second : List Event) :
    margin.takeAll (first ++ second) = (margin.takeAll first).takeAll second := by
  simp [takeAll]

/-! ## A run that goes on -/

/-- A later stage of a run: its number stays, and what is over or told to end stays so. -/
structure Run.GoesOn (run later : Run) : Prop where
  /-- The number stays. -/
  id : later.id = run.id
  /-- A run that is over stays over. -/
  terminated : run.state = .terminated → later.state = .terminated
  /-- A host that was told to end stays told. -/
  told : run.pipe.terminated = true → later.pipe.terminated = true

namespace Run

theorem GoesOn.refl (run : Run) : run.GoesOn run := ⟨rfl, fun past => past, fun told => told⟩

theorem GoesOn.trans {first second third : Run} (left : first.GoesOn second)
    (right : second.GoesOn third) : first.GoesOn third :=
  ⟨right.id.trans left.id, fun past => right.terminated (left.terminated past),
    fun told => right.told (left.told told)⟩

/-- A run that takes a message goes on. -/
theorem goesOn_receive {run after : Run} {message : Message} {report : RunReport}
    (taken : run.receive message = .ok (after, report)) : run.GoesOn after := by
  rcases receive_cases taken with ⟨rfl, -⟩ | ⟨rfl, -⟩ | ⟨rfl, -⟩
  · exact ⟨rfl, fun past => past, fun told => told⟩
  · exact .refl _
  · exact .refl _

/-- A run that is ended goes on. -/
theorem goesOn_terminate (run : Run) : run.GoesOn run.terminate.1 :=
  ⟨rfl, fun _ => rfl, fun _ => rfl⟩

/-- A run that is started goes on. -/
theorem goesOn_start (run : Run) : run.GoesOn run.start.1 := by
  by_cases idle : run.state = .idle
  · rcases (start_of_idle idle).2 with after | after <;> rw [after]
    · exact ⟨rfl, fun past => by simp [idle] at past, fun told => told⟩
    · exact ⟨rfl, fun _ => rfl, fun told => told⟩
  · rw [start_of_ne_idle idle]
    exact .refl run

/-- A run that is fed goes on. -/
theorem goesOn_feed (run : Run) (code : List Char) : run.GoesOn (run.feed code).1 := by
  by_cases running : run.state = .running
  · obtain ⟨sent, nextLine, ended, state, after, -⟩ := run.feed_spec code running
    rw [after]
    exact ⟨rfl, fun past => by simp [running] at past, fun told => told⟩
  · rw [feed_of_ne_running code running]
    exact .refl run

end Run

/-- The event that a message reports carries the number it is made for. -/
theorem Message.runId_of_toEvent {message : Message} {runId : Int} {event : Event}
    (isEvent : message.toEvent runId = .ok (some event)) : event.runId = runId := by
  have placed {type : MessageType} {payload : Payload}
      (found : message.eventOf type runId payload = .ok (some event)) : event.runId = runId := by
    rw [eventOf] at found
    split at found
    · simp only [Except.ok.injEq, Option.some.injEq] at found
      rw [← found]
    · simp at found
    · simp at found
  rw [toEvent] at isEvent
  split at isEvent
  · cases value : readValue (message.get "value") with
    | error fault => simp [value, bind, Except.bind] at isEvent
    | ok read => exact placed (by simpa [value, bind, Except.bind] using isEvent)
  · cases value : readError (message.get "error") with
    | error fault => simp [value, bind, Except.bind] at isEvent
    | ok read => exact placed (by simpa [value, bind, Except.bind] using isEvent)
  · exact placed isEvent
  · simp at isEvent

/-- Classification keeps the number of an event. -/
theorem Event.runId_of_classify {event classified : Event} {logs : List Log.Record}
    (kept : event.classify = (some classified, logs)) : classified.runId = event.runId := by
  have answered := classify?_of_classify kept
  rw [classify?] at answered
  split at answered
  · next text raw =>
    rcases read : classifyText event.line text.toList with fault | (_ | ⟨line, payload⟩)
    · rw [read] at answered
      cases answered
    · rw [read, Except.map] at answered
      dsimp only at answered
      split at answered <;> cases answered
    · rw [read] at answered
      cases answered
      rfl
  · cases answered
    rfl

namespace Run

/-- What a run passes on carries the number of the run. -/
theorem runId_of_mem_events {run after : Run} {message : Message} {report : RunReport} {event : Event}
    (taken : run.receive message = .ok (after, report)) (member : event ∈ report.events) :
    event.runId = run.id := by
  rcases receive_cases taken with ⟨-, rfl⟩ | ⟨-, quiet⟩ | ⟨-, found, isEvent, rfl⟩
  · simp [RunReport.none] at member
  · simp [quiet.1] at member
  · have number := Message.runId_of_toEvent isEvent
    rw [events_report] at member
    split at member
    · simp at member
    · rw [passedOn] at member
      split at member
      · rw [Option.mem_toList] at member
        exact (Event.runId_of_classify (Prod.ext member rfl)).trans number
      · rw [List.mem_singleton] at member
        rw [member, number]

/-- A run that is over passes on nothing that its host says. -/
theorem events_of_receive_of_terminated {run after : Run} {message : Message} {report : RunReport}
    (taken : run.receive message = .ok (after, report)) (past : run.state = .terminated) :
    report.events = [] := by
  have silent := (run.step_message message).2.1 past
  simpa [step, taken, Except.toOption] using silent

end Run

/-! ## What a session's operations do -/

namespace Session

/-- The run at a place after another run was put at a place. -/
theorem runAt?_setRun (session : Session) (place other : Nat) (run : Run) :
    (session.setRun place run).runAt? other =
      if place = other then (session.runAt? other).map fun _ => run else session.runAt? other := by
  rw [setRun, runAt?, runAt?, List.getElem?_modify]
  split <;> cases session.runs[other]? <;> rfl

@[simp] theorem length_runs_setRun (session : Session) (place : Nat) (run : Run) :
    (session.setRun place run).runs.length = session.runs.length := by
  simp [setRun]

/-- There is a run at every place below the number of runs, and at no other. -/
theorem runAt?_eq_none_iff (session : Session) (place : Nat) :
    session.runAt? place = none ↔ session.runs.length ≤ place := by
  simp [runAt?]

/-- The run at a place below the number of runs. -/
theorem runAt?_eq_getElem (session : Session) {place : Nat} (within : place < session.runs.length) :
    session.runAt? place = some session.runs[place].run := by
  rw [runAt?, List.getElem?_eq_getElem within, Option.map_some]

/-- Setting the context changes nothing else. -/
theorem setContext_spec (session : Session) (base : Option Path) (document : DocumentChange) :
    (∃ context, (session.setContext base document).1 = { session with context }) ∧
      (session.setContext base document).2.published = [] :=
  ⟨⟨_, rfl⟩, rfl⟩

/-- An event is applied if it carries the current number, and it changes nothing but the margin. -/
theorem applyQueued_fst (session : Session) (event : Event) :
    (session.applyQueued event).1 =
      { session with
        margin := if event.runId = session.runId then session.margin.take event else session.margin } := by
  by_cases current : event.runId = session.runId
  · by_cases refused : session.margin.refuses event = true
    · simp [applyQueued, apply, isStale, current, refused, Margin.take]
    · cases fault : event.fault? with
      | none => simp [applyQueued, apply, isStale, current, refused, Margin.take, fault]
      | some numeral =>
        have failed := Event.classify?_of_fault? fault
        simp [applyQueued, apply, isStale, current, refused, Margin.take, fault, Margin.update_of_error failed]
  · simp [applyQueued, apply, isStale, current]

/-- An event that belongs to the past is not published. -/
theorem published_applyQueued (session : Session) (event : Event) (stale : event.runId ≠ session.runId) :
    (session.applyQueued event).2.published = [] := by
  simp [applyQueued, apply, isStale, stale, SessionReport.ofLogs]

/-- Events are applied in order, those that carry the current number, and change nothing but the
margin. -/
theorem applyAll_fst (session : Session) (events : List Event) :
    (session.applyAll events).1 =
      { session with
        margin := session.margin.takeAll (events.filter (·.runId = session.runId)) } := by
  induction events generalizing session with
  | nil => rfl
  | cons event events ih =>
    simp only [applyAll]
    rw [ih, applyQueued_fst]
    by_cases current : event.runId = session.runId
    · simp [current]
    · simp [current]

/-- Events that all belong to the past are not published. -/
theorem published_applyAll (session : Session) (events : List Event)
    (stale : ∀ event ∈ events, event.runId ≠ session.runId) :
    (session.applyAll events).2.published = [] := by
  induction events generalizing session with
  | nil => rfl
  | cons event events ih =>
    have first := stale event List.mem_cons_self
    simp only [applyAll, SessionReport.published_append, published_applyQueued session event first]
    rw [ih]
    · rfl
    · intro other member
      rw [applyQueued_fst]
      exact stale other (List.mem_cons_of_mem event member)

/-- What is reported of a failure of the current run. -/
def failureReport (session : Session) (failure : Failure) : SessionReport :=
  .ofLogs (log .error ("[Repl Server] " ++ failure.message) ::
    if failure.troubleText.isEmpty then []
    else [log .error ("[Repl Server] stderr:\n" ++ failure.troubleText)]) ++ session.passOn failure

/-- Every receiver of failures gets the failure, in order. -/
@[simp] theorem failures_failureReport (session : Session) (failure : Failure) :
    (session.failureReport failure).failures =
      session.failureListeners.map fun listener => (listener, failure) := rfl

/-- A failure of the current run becomes the last one and is reported; any other is dropped. -/
theorem fail_eq (session : Session) (runId : Int) (failure : Failure) :
    session.fail runId failure =
      if runId = session.runId then
        ({ session with lastFailure := some failure }, session.failureReport failure)
      else (session, .none) := by
  by_cases current : runId = session.runId
  · simp [fail, isStale, current, failureReport]
  · simp [fail, isStale, current]

/-- A failure at most becomes the last one. -/
theorem fail_fst (session : Session) (runId : Int) (failure : Failure) :
    ∃ lastFailure, (session.fail runId failure).1 = { session with lastFailure } := by
  rw [fail_eq]
  split
  · exact ⟨some failure, rfl⟩
  · exact ⟨session.lastFailure, rfl⟩

@[simp] theorem published_fail (session : Session) (runId : Int) (failure : Failure) :
    (session.fail runId failure).2.published = [] := by
  rw [fail_eq]
  split <;> rfl

/-- Failures at most change the last one. -/
theorem failAll_fst (session : Session) (runId : Int) (failures : List Failure) :
    ∃ lastFailure, (session.failAll runId failures).1 = { session with lastFailure } := by
  induction failures generalizing session with
  | nil => exact ⟨session.lastFailure, rfl⟩
  | cons failure failures ih =>
    obtain ⟨first, one⟩ := session.fail_fst runId failure
    obtain ⟨lastFailure, all⟩ := ih (session.fail runId failure).1
    refine ⟨lastFailure, ?_⟩
    simp only [failAll]
    rw [all, one]

@[simp] theorem published_failAll (session : Session) (runId : Int) (failures : List Failure) :
    (session.failAll runId failures).2.published = [] := by
  induction failures generalizing session with
  | nil => rfl
  | cons failure failures ih => simp [failAll, ih]

/-- What a run reports is taken: its place holds the run, the events that carry the current number
are applied, and failures at most change the last one. -/
theorem absorb_fst (session : Session) (place : Nat) (run : Run) (report : RunReport) :
    ∃ lastFailure, (session.absorb place run report).1 =
      { session.setRun place run with
        margin := session.margin.takeAll (report.events.filter (·.runId = session.runId))
        lastFailure } := by
  obtain ⟨lastFailure, failed⟩ :=
    ((session.setRun place run).applyAll report.events).1.failAll_fst run.id report.failures
  refine ⟨lastFailure, ?_⟩
  simp only [absorb]
  rw [failed, applyAll_fst]
  rfl

/-- A report whose events all belong to the past is not published. -/
theorem published_absorb (session : Session) (place : Nat) (run : Run) (report : RunReport)
    (stale : ∀ event ∈ report.events, event.runId ≠ session.runId) :
    (session.absorb place run report).2.published = [] := by
  have applied := (session.setRun place run).published_applyAll report.events stale
  simp [absorb, applied, SessionReport.ofLogs]

/-! ## Ending the current run -/

/-- The same runs at their places, but the current one is ended. -/
def CurrentEnded (before after : Session) : Prop :=
  ∀ place, after.runAt? place =
    if before.current = some place then (before.runAt? place).map (·.terminate.1)
    else before.runAt? place

/-- Ending the current run tells its host to end and leaves the session without a current run. -/
theorem stopRun_spec (session : Session) :
    ∃ runs, session.stopRun.1 = { session with runs, current := none } ∧
      runs.length = session.runs.length ∧ session.CurrentEnded session.stopRun.1 ∧
      ∃ logs, session.stopRun.2 = .ofLogs logs := by
  cases current : session.current with
  | none =>
    refine ⟨session.runs, ?_, rfl, ?_, [], ?_⟩
    · simp only [stopRun, current]
      rw [← current]
    · simp [CurrentEnded, stopRun, current]
    · simp only [stopRun, current]
      rfl
  | some place =>
    cases found : session.runAt? place with
    | none =>
      have same : ({ session with current := none } : Session).runAt? place = none := found
      refine ⟨session.runs, ?_, rfl, ?_, [], ?_⟩
      · simp [stopRun, current, same]
      · intro other
        simp only [stopRun, current, same, Option.some.injEq]
        split
        · next here => rw [← here, found]; exact same
        · rfl
      · simp only [stopRun, current, same]
        rfl
    | some run =>
      have same : ({ session with current := none } : Session).runAt? place = some run := found
      refine ⟨(session.setRun place run.terminate.1).runs, ?_, ?_, ?_, run.terminate.2.logs, ?_⟩
      · simp [stopRun, current, same, setRun]
      · simp
      · intro other
        simp only [stopRun, current, same, Option.some.injEq, runAt?_setRun]
        split
        · next here => rw [← here, same, found]; rfl
        · rfl
      · simp only [stopRun, current, same]

/-! ## Going on -/

/-- Every run of a session is still there, perhaps at a later stage. -/
def RunsGoOn (before after : Session) : Prop :=
  ∀ place run, before.runAt? place = some run →
    ∃ later, after.runAt? place = some later ∧ run.GoesOn later

theorem RunsGoOn.of_runs_eq {before after : Session} (same : after.runs = before.runs) :
    before.RunsGoOn after := by
  intro place run found
  refine ⟨run, ?_, .refl run⟩
  rw [runAt?, same]
  exact found

theorem RunsGoOn.trans {first second third : Session} (left : first.RunsGoOn second)
    (right : second.RunsGoOn third) : first.RunsGoOn third := by
  intro place run found
  obtain ⟨later, foundLater, goesOn⟩ := left place run found
  obtain ⟨latest, foundLatest, goesOnLater⟩ := right place later foundLater
  exact ⟨latest, foundLatest, goesOn.trans goesOnLater⟩

/-- Putting a later stage of a run at its place. -/
theorem runsGoOn_setRun {session : Session} {place : Nat} {run later : Run}
    (found : session.runAt? place = some run) (goesOn : run.GoesOn later) :
    session.RunsGoOn (session.setRun place later) := by
  intro other old foundOld
  rw [runAt?_setRun]
  by_cases here : place = other
  · subst here
    rw [found, Option.some.injEq] at foundOld
    subst foundOld
    exact ⟨later, by simp [found], goesOn⟩
  · exact ⟨old, by simp [here, foundOld], .refl old⟩

/-- Ending the current run lets it go on to its end, and the others stay as they are. -/
theorem CurrentEnded.runsGoOn {before after : Session} (ended : before.CurrentEnded after) :
    before.RunsGoOn after := by
  intro place run found
  rw [ended]
  by_cases current : before.current = some place
  · exact ⟨run.terminate.1, by simp [current, found], run.goesOn_terminate⟩
  · exact ⟨run, by simp [current, found], .refl run⟩

/-- A session that goes on with the same current run: no run is made, and each goes on. -/
structure GoesOn (before after : Session) : Prop where
  /-- The current run is the same. -/
  current : after.current = before.current
  /-- Its number is the same. -/
  runId : after.runId = before.runId
  /-- The session is closed if it was. -/
  closed : after.closed = before.closed
  /-- No run is made. -/
  length : after.runs.length = before.runs.length
  /-- Each run goes on. -/
  runs : before.RunsGoOn after

theorem GoesOn.refl (session : Session) : session.GoesOn session :=
  ⟨rfl, rfl, rfl, rfl, .of_runs_eq rfl⟩

/-- Taking what a run reports at its place. -/
theorem goesOn_absorb {session : Session} {place : Nat} {run later : Run} (report : RunReport)
    (found : session.runAt? place = some run) (goesOn : run.GoesOn later) :
    session.GoesOn (session.absorb place later report).1 := by
  obtain ⟨lastFailure, after⟩ := session.absorb_fst place later report
  rw [after]
  refine ⟨rfl, rfl, rfl, length_runs_setRun session place later, ?_⟩
  exact (runsGoOn_setRun found goesOn).trans (.of_runs_eq rfl)

/-! ## Submitting and closing -/

/-- The session to which a submission adds its run: in the new context, with a new number, without a
current run, and with an empty margin. -/
def cleared (session : Session) (base : Option Path) (document : DocumentChange) : Session :=
  (session.setContext base document).1.renew.1

/-- What is left of a session before a submission adds its run to it. -/
theorem cleared_spec (session : Session) (base : Option Path) (document : DocumentChange) :
    ∃ runs context,
      session.cleared base document =
        { session with
          runs, context, current := none, runId := session.runId + 1
          margin := { session.margin with annotations := [] } } ∧
      runs.length = session.runs.length ∧ session.CurrentEnded (session.cleared base document) := by
  obtain ⟨⟨context, changed⟩, -⟩ := session.setContext_spec base document
  obtain ⟨runs, stopped, length, ended, -⟩ :=
    ({ session with context, runId := session.runId + 1 } : Session).stopRun_spec
  have after : session.cleared base document =
      { session with
        runs, context, current := none, runId := session.runId + 1
        margin := { session.margin with annotations := [] } } := by
    simp only [cleared, renew, changed, stopped, Margin.reset]
  refine ⟨runs, context, after, length, fun place => ?_⟩
  rw [after]
  rw [stopped] at ended
  exact ended place

/-- A session with one more run. -/
def withNewest (session : Session) (hosted : HostedRun) (current : Option Nat) : Session :=
  { session with runs := session.runs ++ [hosted], current }

/-- The newest run is the one at the place behind all others. -/
@[simp] theorem runAt?_withNewest_self (session : Session) (hosted : HostedRun) (current : Option Nat) :
    (session.withNewest hosted current).runAt? session.runs.length = some hosted.run := by
  simp [runAt?, withNewest]

theorem runAt?_withNewest_of_lt (session : Session) (hosted : HostedRun) (current : Option Nat)
    {place : Nat} (before : place < session.runs.length) :
    (session.withNewest hosted current).runAt? place = session.runAt? place := by
  simp [runAt?, withNewest, List.getElem?_append_left before]

/-- A run of a session with one more run was there before or is the newest. -/
theorem runAt?_withNewest_cases {session : Session} {hosted : HostedRun} {current : Option Nat}
    {place : Nat} {run : Run} (found : (session.withNewest hosted current).runAt? place = some run) :
    session.runAt? place = some run ∨ (place = session.runs.length ∧ run = hosted.run) := by
  rcases Nat.lt_trichotomy place session.runs.length with before | here | beyond
  · left
    rwa [runAt?_withNewest_of_lt session hosted current before] at found
  · right
    subst here
    rw [runAt?_withNewest_self, Option.some.injEq] at found
    exact ⟨rfl, found.symm⟩
  · have none : (session.withNewest hosted current).runAt? place = none := by
      rw [runAt?_eq_none_iff, withNewest, List.length_append]
      exact beyond
    simp [none] at found

/-- The runs before the newest are where they were. -/
theorem runsGoOn_withNewest (session : Session) (hosted : HostedRun) (current : Option Nat) :
    session.RunsGoOn (session.withNewest hosted current) := by
  intro place run found
  have before : place < session.runs.length := by
    rw [← Nat.not_le, ← runAt?_eq_none_iff, found]
    simp
  exact ⟨run, by rwa [runAt?_withNewest_of_lt session hosted current before], .refl run⟩

/-- A changed newest run. -/
theorem setRun_withNewest (session : Session) (hosted : HostedRun) (current : Option Nat) (run : Run) :
    (session.withNewest hosted current).setRun session.runs.length run =
      session.withNewest { hosted with run } current := by
  have last {runs : List HostedRun} (change : HostedRun → HostedRun) :
      (runs ++ [hosted]).modify runs.length change = runs ++ [change hosted] := by
    induction runs with
    | nil => rfl
    | cons first runs ih => simpa using ih
  simp [setRun, withNewest, last]

/-- The run that a submission adds. -/
def newRun (session : Session) (pipe : Pipe) : Run := .fresh session.runId true pipe

/-- The run of a submission is the newest one. -/
theorem addRun_eq (session : Session) (pipe : Pipe) :
    session.addRun pipe =
      session.withNewest ⟨session.newRun pipe, session.context.base⟩ (some session.runs.length) := rfl

/-- Spawning the host of the new run leaves the session as it is, if it can be spawned. -/
theorem spawnHost_newRun (session : Session) {pipe : Pipe} (fine : pipe.startFault = none) :
    (session.addRun pipe).spawnHost session.runs.length (session.newRun pipe) =
      (session.addRun pipe, .none, .ok ()) := by
  have spawned : (session.newRun pipe).spawn = (session.newRun pipe, .ok ()) := Run.spawn_fresh session.runId true fine
  rw [spawnHost, spawned, addRun_eq]
  simp only [setRun_withNewest]

/-- The new run is over and its host told to end, and the failure is reported, if its host cannot be
started. -/
theorem spawnHost_newRun_of_fault (session : Session) {pipe : Pipe} {reason : String}
    (fault : pipe.startFault = some reason) :
    (session.addRun pipe).spawnHost session.runs.length (session.newRun pipe) =
      ({ session.withNewest ⟨(session.newRun pipe).start.1.terminate.1, session.context.base⟩ none with
          lastFailure := some (.notStarted reason) },
        session.failureReport (.notStarted reason), .error (.run (.notStarted reason))) := by
  -- The failed start ends the run, the failure is noted, and then the run is ended once more.
  let dead : Run := { session.newRun pipe with state := .terminated, drained := true }
  have spawned : (session.newRun pipe).spawn = (dead, .error (.notStarted reason)) :=
    Run.spawn_fresh_of_fault session.runId true fault
  have begun : (session.newRun pipe).start.1 = dead :=
    congrArg Prod.fst (Run.start_fresh_of_fault session.runId true fault)
  let added := session.withNewest ⟨dead, session.context.base⟩ (some session.runs.length)
  let noted : Session := { added with lastFailure := some (.notStarted reason) }
  have failed : added.fail dead.id (.notStarted reason) =
      (noted, session.failureReport (.notStarted reason)) := by
    have current : dead.id = added.runId := rfl
    rw [fail_eq, if_pos current]
    rfl
  have stopped : noted.stopRun =
      ({ session.withNewest ⟨dead.terminate.1, session.context.base⟩ none with
          lastFailure := some (.notStarted reason) }, .none) := by
    have current : noted.current = some session.runs.length := rfl
    have here : ({ noted with current := none } : Session).runAt? session.runs.length = some dead :=
      session.runAt?_withNewest_self ⟨dead, session.context.base⟩ none
    have placed := session.setRun_withNewest ⟨dead, session.context.base⟩ none dead.terminate.1
    simp only [stopRun, current, here]
    exact congrArg (fun after : Session => ({ after with lastFailure := noted.lastFailure }, _)) placed
  have ended : (session.addRun pipe).spawnHost session.runs.length (session.newRun pipe) =
      ((added.fail dead.id (.notStarted reason)).1.stopRun.1,
        (added.fail dead.id (.notStarted reason)).2 ++
          (added.fail dead.id (.notStarted reason)).1.stopRun.2, .error (.run (.notStarted reason))) := by
    rw [spawnHost, spawned, addRun_eq]
    simp only [setRun_withNewest]
    rfl
  rw [ended, failed, begun]
  simp only [stopped, SessionReport.append_none]

/-- The new run goes on to running when its host is up. -/
theorem enterRun_addRun (session : Session) {pipe : Pipe} (fine : pipe.startFault = none) :
    (session.addRun pipe).enterRun session.runs.length =
      (session.withNewest ⟨(session.newRun pipe).start.1, session.context.base⟩ (some session.runs.length),
        .ofLogs (session.newRun pipe).start.2.1.logs) := by
  have begun : (session.newRun pipe).enter =
      ((session.newRun pipe).start.1, (session.newRun pipe).start.2.1) := by
    rw [newRun, Run.start_fresh session.runId true fine]
    rfl
  simp only [enterRun, addRun_eq, runAt?_withNewest_self, begun, setRun_withNewest]

/-- The newest run is sent a document. -/
theorem feedRun_withNewest (session : Session) (hosted : HostedRun) (current : Option Nat) (code : List Char) :
    (session.withNewest hosted current).feedRun ⟨session.runs.length, code⟩ =
      (session.withNewest { hosted with run := (hosted.run.deliver code).1 } current,
        .ofLogs (hosted.run.deliver code).2.1.logs,
        match (hosted.run.deliver code).2.2 with
        | .ok delivery => .ok ⟨session.runId, session.runs.length, delivery⟩
        | .error error => .error (.run error)) := by
  simp only [feedRun, runAt?_withNewest_self, setRun_withNewest]
  rfl

/-- The newest run goes on to draining once it is sent all of its document. -/
theorem conclude_withNewest (session : Session) (hosted : HostedRun) (current : Option Nat) (runId : Int)
    (delivery : Run.Delivery) :
    (session.withNewest hosted current).conclude ⟨runId, session.runs.length, delivery⟩ =
      (session.withNewest { hosted with run := (hosted.run.conclude delivery).1 } current,
        .ofLogs (hosted.run.conclude delivery).2.logs) := by
  simp only [conclude, runAt?_withNewest_self, setRun_withNewest]

/-- A closed session refuses submissions and stays as it is. -/
theorem submit_of_closed {session : Session} (closed : session.closed = true) (tree : Tree) (pipe : Pipe)
    (text : List Char) (base : Option Path) (document : DocumentChange) :
    session.submit tree pipe text base document = (session, .none, .error .closed) := by
  simp [submit, deliver, launch, closed]

/-- What is reported when a submission clears the session. -/
def clearedReport (session : Session) (base : Option Path) (document : DocumentChange) :
    SessionReport :=
  (session.setContext base document).2 ++ (session.setContext base document).1.renew.2

/-- What is reported when the document of a submission is prepared. -/
def announcement (session : Session) (text : List Char) (prepared : List Log.Record) : SessionReport :=
  .ofLogs (prepared ++ [log .info
    s!"Starting to interpret {text.length} bytes of code (run {session.runId})"])

section Submitting

variable {session : Session} (opened : session.closed = false) {tree : Tree} {pipe : Pipe}
  {text : List Char} {base : Option Path} {document : DocumentChange}

include opened

/-- Launching a document clears the session and prepares the document, and then makes a new run and spawns its
host. -/
theorem launch_of_open :
    let cleared := session.cleared base document
    session.launch tree pipe text base document =
      match Preparation.document (cleared.setting tree) text with
      | .error error => (cleared, session.clearedReport base document, .error (.lookup error))
      | .ok (code, logs) =>
        let before := session.clearedReport base document ++ cleared.announcement text logs
        match (cleared.addRun pipe).spawnHost cleared.runs.length (cleared.newRun pipe) with
        | (after, report, .error error) => (after, before ++ report, .error error)
        | (after, report, .ok ()) => (after, before ++ report, .ok ⟨cleared.runs.length, code⟩) := by
  intro cleared
  have same : (session.setContext base document).1.renew.1 = cleared := rfl
  simp only [launch, opened, Bool.false_eq_true, if_false, same]
  cases Preparation.document (cleared.setting tree) text with
  | error error => rfl
  | ok result =>
    obtain ⟨code, logs⟩ := result
    have run : Run.fresh (cleared.addRun pipe).runId true pipe = cleared.newRun pipe := rfl
    simp only [run]
    rcases (cleared.addRun pipe).spawnHost cleared.runs.length (cleared.newRun pipe) with
      ⟨after, report, error | _⟩
    · rfl
    · rfl

/-- A document that cannot be prepared is not fed, and no run is made. -/
theorem launch_of_lookup {error : LookupError}
    (failed : Preparation.document ((session.cleared base document).setting tree) text = .error error) :
    session.launch tree pipe text base document =
      (session.cleared base document, session.clearedReport base document, .error (.lookup error)) := by
  simp only [launch_of_open opened, failed]

theorem submit_of_lookup {error : LookupError}
    (failed : Preparation.document ((session.cleared base document).setting tree) text = .error error) :
    session.submit tree pipe text base document =
      (session.cleared base document, session.clearedReport base document, .error (.lookup error)) := by
  simp only [submit, deliver, launch_of_lookup opened failed]

variable {code : List Char} {logs : List Log.Record}
  (prepared : Preparation.document ((session.cleared base document).setting tree) text = .ok (code, logs))

include prepared

/-- A run whose host cannot be started is over and no current run, and its failure is reported. -/
theorem launch_of_fault {reason : String} (fault : pipe.startFault = some reason) :
    let cleared := session.cleared base document
    session.launch tree pipe text base document =
      ({ cleared.withNewest ⟨((cleared.newRun pipe).start.1.terminate).1, cleared.context.base⟩ none with
          lastFailure := some (.notStarted reason) },
        session.clearedReport base document ++ cleared.announcement text logs ++
          cleared.failureReport (.notStarted reason),
        .error (.run (.notStarted reason))) := by
  simp only [launch_of_open opened, prepared, spawnHost_newRun_of_fault _ fault]

theorem submit_of_fault {reason : String} (fault : pipe.startFault = some reason) :
    let cleared := session.cleared base document
    session.submit tree pipe text base document =
      ({ cleared.withNewest ⟨((cleared.newRun pipe).start.1.terminate).1, cleared.context.base⟩ none with
          lastFailure := some (.notStarted reason) },
        session.clearedReport base document ++ cleared.announcement text logs ++
          cleared.failureReport (.notStarted reason),
        .error (.run (.notStarted reason))) := by
  simp only [submit, deliver, launch_of_fault opened prepared fault]

/-- A run whose host is spawned is the current one, and not yet running. -/
theorem launch_of_spawn (fine : pipe.startFault = none) :
    let cleared := session.cleared base document
    session.launch tree pipe text base document =
      (cleared.addRun pipe, session.clearedReport base document ++ cleared.announcement text logs,
        .ok ⟨cleared.runs.length, code⟩) := by
  simp only [launch_of_open opened, prepared, spawnHost_newRun _ fine, SessionReport.append_none]

/-- A document whose host is started is sent to it. -/
theorem deliver_of_start (fine : pipe.startFault = none) :
    let cleared := session.cleared base document
    let started := (cleared.newRun pipe).start
    let delivered := started.1.deliver code
    session.deliver tree pipe text base document =
      (cleared.withNewest ⟨delivered.1, cleared.context.base⟩ (some cleared.runs.length),
        session.clearedReport base document ++ cleared.announcement text logs ++
          .ofLogs (started.2.1.logs ++ delivered.2.1.logs),
        match delivered.2.2 with
        | .ok delivery => .ok ⟨cleared.runId, cleared.runs.length, delivery⟩
        | .error error => .error (.run error)) := by
  simp only [deliver, launch_of_spawn opened prepared fine, enterRun_addRun _ fine, feedRun_withNewest,
    SessionReport.ofLogs_append, SessionReport.append_assoc]

/-- A run whose host is started is fed the document, and it is the current run, also where feeding breaks off. -/
theorem submit_of_start (fine : pipe.startFault = none) :
    let cleared := session.cleared base document
    let started := (cleared.newRun pipe).start
    session.submit tree pipe text base document =
      (cleared.withNewest ⟨(started.1.feed code).1, cleared.context.base⟩ (some cleared.runs.length),
        session.clearedReport base document ++ cleared.announcement text logs ++
          .ofLogs (started.2.1.logs ++ (started.1.feed code).2.1.logs),
        match (started.1.feed code).2.2 with
        | .ok _ => .ok cleared.runId
        | .error error => .error (.run error)) := by
  intro cleared started
  rcases delivered : started.1.deliver code with ⟨after, report, error | delivery⟩
  all_goals simp only [started, cleared] at delivered ⊢
  · simp only [submit, deliver_of_start opened prepared fine, delivered, Run.feed_of_broken delivered]
  · simp only [submit, deliver_of_start opened prepared fine, delivered, Run.feed_of_delivered delivered,
      conclude_withNewest, RunReport.logs_append, SessionReport.ofLogs_append, SessionReport.append_assoc]

end Submitting

/-- What a submission that is not refused comes to. Either the document cannot be prepared, and no
run is made; or a run is made, its host cannot be started, and the run is over and its host told to
end; or the run becomes the current one and the submission returns its number. -/
theorem submit_cases {session : Session} (accepted : session.closed = false) (tree : Tree) (pipe : Pipe)
    (text : List Char) (base : Option Path) (document : DocumentChange) :
    (∃ error, (session.submit tree pipe text base document).1 = session.cleared base document ∧
      (session.submit tree pipe text base document).2.2 = .error error) ∨
    (∃ hosted lastFailure error, (session.submit tree pipe text base document).1 =
        { (session.cleared base document).withNewest hosted none with lastFailure } ∧
      (session.submit tree pipe text base document).2.2 = .error error ∧
      hosted.run.id = session.runId + 1 ∧ hosted.run.state = .terminated ∧
      hosted.run.pipe.terminated = true) ∨
    (∃ hosted, (session.submit tree pipe text base document).1 =
        (session.cleared base document).withNewest hosted
          (some (session.cleared base document).runs.length) ∧
      ((session.submit tree pipe text base document).2.2 = .ok (session.runId + 1) ∨
        ∃ fault, (session.submit tree pipe text base document).2.2 = .error (.run (.numeral fault))) ∧
      hosted.run.id = session.runId + 1) := by
  have number : (session.cleared base document).runId = session.runId + 1 := by
    obtain ⟨runs, context, after, -⟩ := session.cleared_spec base document
    simp only [after]
  have id := Run.goesOn_start ((session.cleared base document).newRun pipe)
  cases prepared : Preparation.document ((session.cleared base document).setting tree) text with
  | error error =>
    left
    rw [submit_of_lookup accepted prepared]
    exact ⟨.lookup error, rfl, rfl⟩
  | ok result =>
    right
    obtain ⟨code, logs⟩ := result
    cases start : pipe.startFault with
    | some reason =>
      left
      rw [submit_of_fault accepted prepared start]
      exact ⟨_, _, _, rfl, rfl, id.id.trans number, rfl, rfl⟩
    | none =>
      right
      rw [submit_of_start accepted prepared start, number]
      -- Neither starting nor feeding changes the number that the run was made with.
      refine ⟨_, rfl, ?_, ((Run.goesOn_feed _ code).id.trans id.id).trans number⟩
      have running : ((session.cleared base document).newRun pipe).start.1.state = .running := by
        simp only [newRun, Run.start_fresh _ true start]
      cases answer : (((session.cleared base document).newRun pipe).start.1.feed code).2.2 with
      | ok count => exact .inl rfl
      | error error =>
        obtain ⟨fault, rfl⟩ := Run.exists_numeral_of_feed running answer
        exact .inr ⟨fault, rfl⟩

/-- A closed session that is closed again stays as it is. -/
theorem close_of_closed {session : Session} (closed : session.closed = true) :
    session.close = (session, .none) := by
  rw [close, if_pos closed]

/-- Closing ends the current run and takes a new number, so that everything before belongs to the
past. -/
theorem close_of_open {session : Session} (opened : session.closed = false) :
    ∃ runs, session.close.1 =
        { session with runs, current := none, runId := session.runId + 1, closed := true } ∧
      runs.length = session.runs.length ∧ session.CurrentEnded session.close.1 := by
  obtain ⟨runs, stopped, length, ended, -⟩ :=
    ({ session with closed := true, runId := session.runId + 1 } : Session).stopRun_spec
  have after : session.close.1 =
      ({ session with closed := true, runId := session.runId + 1 } : Session).stopRun.1 := by
    simp [close, opened]
  refine ⟨runs, by rw [after, stopped], length, fun place => ?_⟩
  rw [after]
  exact ended place

/-- Closing brings about nothing but log records. -/
theorem close_snd (session : Session) : ∃ logs, session.close.2 = .ofLogs logs := by
  cases closed : session.closed with
  | true =>
    rw [close_of_closed closed]
    exact ⟨[], rfl⟩
  | false =>
    obtain ⟨-, -, -, -, logs, stopped⟩ :=
      ({ session with closed := true, runId := session.runId + 1 } : Session).stopRun_spec
    refine ⟨[log .info "Disposing REPL session."] ++ logs, ?_⟩
    simp only [close, closed, Bool.false_eq_true, if_false, stopped]
    rfl

/-! ## Steps -/

/-- The session after a step, and what came of it. An operation that is refused leaves the session
as it is. -/
def step (session : Session) : SessionStep → Session × SessionReport
  | .submit tree startFault capacity text base document =>
    let submitted := session.submit tree (.fresh startFault capacity) text base document
    (submitted.1, submitted.2.1)
  | .close => session.close
  | .setContext base document => session.setContext base document
  | .message place message => (session.receive place message).toOption.getD (session, .none)
  | .hold place message =>
    match session.runAt? place with
    | none => (session, .none)
    | some run =>
      match run.receive message with
      | .ok (run, report) => (session.setRun place run, .ofLogs report.logs)
      | .error _ => (session, .none)
  | .exit place code troubleText requested => session.hostExited place code troubleText requested
  | .failure runId failure => session.fail runId failure
  | .event event => session.applyQueued event
  | .listen listener => (session.addListener listener, .none)
  | .listenFailures listener => (session.addFailureListener listener, .none)

/-- The session after some steps in order. -/
def afterSteps (session : Session) : List SessionStep → Session
  | [] => session
  | step :: others => (session.step step).1.afterSteps others

@[simp] theorem afterSteps_nil (session : Session) : session.afterSteps [] = session := rfl

@[simp] theorem afterSteps_cons (session : Session) (step : SessionStep) (others : List SessionStep) :
    session.afterSteps (step :: others) = (session.step step).1.afterSteps others := rfl

theorem afterSteps_append (session : Session) (early late : List SessionStep) :
    session.afterSteps (early ++ late) = (session.afterSteps early).afterSteps late := by
  induction early generalizing session with
  | nil => rfl
  | cons step early ih => exact ih (session.step step).1

/-- What came of some steps in order, step by step. -/
def reports (session : Session) : List SessionStep → List SessionReport
  | [] => []
  | step :: others => (session.step step).2 :: (session.step step).1.reports others

@[simp] theorem reports_nil (session : Session) : session.reports [] = [] := rfl

@[simp] theorem reports_cons (session : Session) (step : SessionStep) (others : List SessionStep) :
    session.reports (step :: others) =
      (session.step step).2 :: (session.step step).1.reports others := rfl

/-- The events that a step applies. -/
def offered (session : Session) : SessionStep → List Event
  | .message place message =>
    match session.runAt? place with
    | none => []
    | some run => ((run.receive message).toOption.map (·.2.events)).getD []
  | .event event => [event]
  | _ => []

/-- A message is taken by its run, and the events that the run passes on are applied. -/
theorem step_message (session : Session) (place : Nat) (message : Message) :
    ((session.step (.message place message)).1 = session ∧
        (session.step (.message place message)).2 = .none ∧
        session.offered (.message place message) = []) ∨
      ∃ run after report, session.runAt? place = some run ∧ run.receive message = .ok (after, report) ∧
        session.step (.message place message) = session.absorb place after report ∧
        session.offered (.message place message) = report.events := by
  cases found : session.runAt? place with
  | none => simp [step, receive, offered, found, Except.toOption]
  | some run =>
    cases taken : run.receive message with
    | error fault =>
      simp [step, receive, offered, found, taken, bind, Except.bind, Except.toOption]
    | ok result =>
      right
      obtain ⟨after, report⟩ := result
      refine ⟨run, after, report, rfl, taken, ?_, ?_⟩
      · simp [step, receive, found, taken, bind, Except.bind, pure, Except.pure, Except.toOption]
      · simp [offered, found, taken, Except.toOption]

/-- The exit of a host ends its run; a failure is passed on if the host was up and nobody asked it to go. -/
theorem step_exit (session : Session) (place : Nat) (code : Option Int) (troubleText : String)
    (requested : Bool) :
    (session.runAt? place = none ∧ session.step (.exit place code troubleText requested) = (session, .none)) ∨
      ∃ run gone report, session.runAt? place = some run ∧
        session.step (.exit place code troubleText requested) = session.absorb place gone report ∧
        gone = { run with
          pipe := { run.pipe with troubleText }, state := .terminated, drained := true } ∧
        report.events = [] ∧
        report.failures = if requested = false ∧ run.isLive = true ∧ run.passesFailures = true then
          [Failure.ofExit code troubleText] else [] := by
  cases found : session.runAt? place with
  | none =>
    refine .inl ⟨rfl, ?_⟩
    simp only [step, hostExited, found]
  | some run =>
    let left : Run := { run with pipe := { run.pipe with troubleText } }
    refine .inr ⟨run, (left.hostExited code requested).1, (left.hostExited code requested).2, rfl, ?_, ?_,
      left.events_hostExited code requested, left.failures_hostExited code requested⟩
    · simp only [step, hostExited, found, left]
    · exact left.hostExited_fst code requested

/-- A step that is no submission and does not close lets the session go on, and it applies the
events that it offers and that carry the current number. -/
theorem goesOn_step (session : Session) (step : SessionStep) (other : step.supersedes = false) :
    session.GoesOn (session.step step).1 ∧
      ∃ listeners, (session.step step).1.margin =
        { session.margin.takeAll ((session.offered step).filter (·.runId = session.runId)) with
          listeners } := by
  cases step with
  | submit | close => simp [SessionStep.supersedes] at other
  | setContext base document =>
    obtain ⟨⟨context, changed⟩, -⟩ := session.setContext_spec base document
    simp only [Session.step, changed]
    exact ⟨⟨rfl, rfl, rfl, rfl, .of_runs_eq rfl⟩, session.margin.listeners, rfl⟩
  | message place message =>
    rcases session.step_message place message with ⟨same, -, offers⟩ | ⟨run, after, report, found, taken,
      result, offers⟩
    · rw [same, offers]
      exact ⟨.refl session, session.margin.listeners, rfl⟩
    · rw [result, offers]
      obtain ⟨lastFailure, absorbed⟩ := session.absorb_fst place after report
      refine ⟨goesOn_absorb report found (Run.goesOn_receive taken),
        (session.margin.takeAll (report.events.filter (·.runId = session.runId))).listeners, ?_⟩
      rw [absorbed]
  | hold place message =>
    -- Nothing is offered: what the run passes on waits, and comes later as events.
    have none : ∃ listeners, session.margin =
        { session.margin.takeAll ((session.offered (.hold place message)).filter
          (·.runId = session.runId)) with listeners } := ⟨session.margin.listeners, rfl⟩
    cases found : session.runAt? place with
    | none =>
      simp only [Session.step, found]
      exact ⟨.refl session, none⟩
    | some run =>
      cases taken : run.receive message with
      | error fault =>
        simp only [Session.step, found, taken]
        exact ⟨.refl session, none⟩
      | ok result =>
        simp only [Session.step, found, taken]
        refine ⟨⟨rfl, rfl, rfl, length_runs_setRun _ _ _, ?_⟩, none⟩
        exact runsGoOn_setRun found (Run.goesOn_receive taken)
  | exit place code troubleText requested =>
    rcases session.step_exit place code troubleText requested with ⟨-, same⟩ | ⟨run, gone, report, found,
      result, isGone, none, -⟩
    · rw [same]
      exact ⟨.refl session, session.margin.listeners, rfl⟩
    · have goesOn : run.GoesOn gone := by
        rw [isGone]
        exact ⟨rfl, fun _ => rfl, fun told => told⟩
      obtain ⟨lastFailure, absorbed⟩ := session.absorb_fst place gone report
      rw [result]
      refine ⟨goesOn_absorb report found goesOn, session.margin.listeners, ?_⟩
      rw [absorbed, none]
      rfl
  | failure runId failure =>
    obtain ⟨lastFailure, failed⟩ := session.fail_fst runId failure
    simp only [Session.step, failed]
    exact ⟨⟨rfl, rfl, rfl, rfl, .of_runs_eq rfl⟩, session.margin.listeners, rfl⟩
  | event event =>
    simp only [Session.step, applyQueued_fst]
    refine ⟨⟨rfl, rfl, rfl, rfl, .of_runs_eq rfl⟩,
      (session.margin.takeAll ([event].filter (·.runId = session.runId))).listeners, ?_⟩
    by_cases current : event.runId = session.runId
    · simp [offered, current]
    · simp [offered, current]
  | listen listener =>
    exact ⟨⟨rfl, rfl, rfl, rfl, .of_runs_eq rfl⟩, session.margin.listeners ++ [listener], rfl⟩
  | listenFailures listener =>
    exact ⟨⟨rfl, rfl, rfl, rfl, .of_runs_eq rfl⟩, session.margin.listeners, rfl⟩

/-- A superseding step of a closed session changes nothing. -/
theorem step_of_closed {session : Session} (closed : session.closed = true) {step : SessionStep}
    (supersedes : step.supersedes = true) : (session.step step).1 = session := by
  cases step with
  | submit tree startFault capacity text base document => simp only [Session.step, submit_of_closed closed]
  | close => simp only [Session.step, close_of_closed closed]
  | _ => simp [SessionStep.supersedes] at supersedes

/-- A superseding step of an open session takes a new number, and every run goes on. -/
theorem step_of_open {session : Session} (opened : session.closed = false) {step : SessionStep}
    (supersedes : step.supersedes = true) :
    (session.step step).1.runId = session.runId + 1 ∧ session.RunsGoOn (session.step step).1 := by
  cases step with
  | submit tree startFault capacity text base document =>
    obtain ⟨runs, context, after, -, ended⟩ := session.cleared_spec base document
    have number : (session.cleared base document).runId = session.runId + 1 := by rw [after]
    have kept := ended.runsGoOn
    rcases submit_cases opened tree (.fresh startFault capacity) text base document with
      ⟨error, result, -⟩ | ⟨hosted, lastFailure, error, result, -⟩ | ⟨hosted, result, -⟩
    · simp only [Session.step, result]
      exact ⟨number, kept⟩
    · simp only [Session.step, result]
      exact ⟨number, (kept.trans (runsGoOn_withNewest _ hosted none)).trans (.of_runs_eq rfl)⟩
    · simp only [Session.step, result]
      exact ⟨number, kept.trans (runsGoOn_withNewest _ hosted _)⟩
  | close =>
    obtain ⟨runs, after, -, ended⟩ := close_of_open opened
    exact ⟨by simp only [Session.step, after], ended.runsGoOn⟩
  | _ => simp [SessionStep.supersedes] at supersedes

/-- No step takes back a number or a run. -/
theorem runsGoOn_step (session : Session) (step : SessionStep) :
    session.runId ≤ (session.step step).1.runId ∧ session.RunsGoOn (session.step step).1 := by
  cases supersedes : step.supersedes with
  | false =>
    have goesOn := (session.goesOn_step step supersedes).1
    exact ⟨Int.le_of_eq goesOn.runId.symm, goesOn.runs⟩
  | true =>
    cases closed : session.closed with
    | true =>
      rw [step_of_closed closed supersedes]
      exact ⟨Int.le_refl _, .of_runs_eq rfl⟩
    | false =>
      obtain ⟨number, kept⟩ := step_of_open closed supersedes
      exact ⟨by omega, kept⟩

/-- No history takes back a number or a run. -/
theorem runsGoOn_afterSteps (session : Session) (history : List SessionStep) :
    session.runId ≤ (session.afterSteps history).runId ∧
      session.RunsGoOn (session.afterSteps history) := by
  induction history generalizing session with
  | nil => exact ⟨Int.le_refl _, .of_runs_eq rfl⟩
  | cons step history ih =>
    obtain ⟨number, kept⟩ := session.runsGoOn_step step
    obtain ⟨laterNumber, laterKept⟩ := ih (session.step step).1
    exact ⟨Int.le_trans number laterNumber, kept.trans laterKept⟩

end Session

end Marginalia

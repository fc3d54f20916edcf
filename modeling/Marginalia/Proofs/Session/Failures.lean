import Marginalia.Proofs.Session.Isolation
import Marginalia.Proofs.Session.Submissions
import Marginalia.Proofs.Session.Watch

/-! # Failures that are reported
A session reports the failures that the account of its history says (`Watch`) and no others
(`failures_reported_once`). What ties the two is that the account is right about the session
(`Watch.Sees`): above all, the host that it has up is that of the current run, and that run passes its
failures on under the current number. Every step keeps the account right and reports what it says. -/

namespace Marginalia

open File

/-! ## What a session reports -/

namespace Session

/-- What an operation does about failures: each is given to every receiver of the session, and the last
one is remembered. -/
structure Reports (session : Session) (outcome : Session × SessionReport) (failures : List Failure) :
    Prop where
  /-- Every receiver gets each of the failures, in order. -/
  calls : outcome.2.failures = failures.flatMap fun failure =>
    session.failureListeners.map fun listener => (listener, failure)
  /-- The last failure is remembered; without one, the one before stays. -/
  last : outcome.1.lastFailure = failures.getLast?.or session.lastFailure

/-- An operation that reports no failure and forgets none. -/
theorem Reports.none {session : Session} {outcome : Session × SessionReport}
    (calls : outcome.2.failures = []) (last : outcome.1.lastFailure = session.lastFailure) :
    session.Reports outcome [] := ⟨calls, last⟩

/-- One operation after another reports the failures of both. -/
theorem Reports.append {session : Session} {first second : Session × SessionReport}
    {failures others : List Failure} (left : session.Reports first failures)
    (same : first.1.failureListeners = session.failureListeners)
    (right : first.1.Reports second others) :
    session.Reports (second.1, first.2 ++ second.2) (failures ++ others) := by
  refine ⟨?_, ?_⟩
  · rw [SessionReport.failures_append, left.calls, right.calls, same, List.flatMap_append]
  · rw [right.last, left.last, List.getLast?_append, Option.or_assoc]

@[simp] theorem failures_applyQueued (session : Session) (event : Event) :
    (session.applyQueued event).2.failures = [] := by
  by_cases current : event.runId = session.runId
  · by_cases refused : session.margin.refuses event = true
    · simp [applyQueued, apply, isStale, current, refused, SessionReport.ofLogs]
    · cases fault : event.fault? with
      | none => simp [applyQueued, apply, isStale, current, refused, fault, SessionReport.ofMargin]
      | some numeral => simp [applyQueued, apply, isStale, current, refused, fault, SessionReport.ofLogs]
  · simp [applyQueued, apply, isStale, current, SessionReport.ofLogs]

@[simp] theorem failures_applyAll (session : Session) (events : List Event) :
    (session.applyAll events).2.failures = [] := by
  induction events generalizing session with
  | nil => rfl
  | cons event events ih => simp [applyAll, ih]

/-- A failure is reported if it carries the current number. -/
theorem reports_fail (session : Session) (runId : Int) (failure : Failure) :
    session.Reports (session.fail runId failure)
      (if runId = session.runId then [failure] else []) := by
  rw [fail_eq]
  split
  · exact ⟨(List.append_nil _).symm, rfl⟩
  · exact .none rfl rfl

/-- Failures are reported in order, if they carry the current number. -/
theorem reports_failAll (session : Session) (runId : Int) (failures : List Failure) :
    session.Reports (session.failAll runId failures)
      (if runId = session.runId then failures else []) := by
  induction failures generalizing session with
  | nil =>
    have none : session.Reports (session.failAll runId []) [] := .none rfl rfl
    simpa only [ite_self] using none
  | cons failure failures ih =>
    obtain ⟨lastFailure, one⟩ := session.fail_fst runId failure
    have number : (session.fail runId failure).1.runId = session.runId := by rw [one]
    have rest := ih (session.fail runId failure).1
    rw [number] at rest
    have both := (session.reports_fail runId failure).append (by rw [one]) rest
    by_cases current : runId = session.runId
    · simp only [if_pos current] at both ⊢
      exact both
    · simp only [if_neg current] at both ⊢
      exact both

/-- The failures of a run are reported in order, if it is the one with the current number. -/
theorem reports_absorb (session : Session) (place : Nat) (run : Run) (report : RunReport) :
    session.Reports (session.absorb place run report)
      (if run.id = session.runId then report.failures else []) := by
  let placed := session.setRun place run
  have applied := placed.applyAll_fst report.events
  have quiet : session.Reports
      ((placed.applyAll report.events).1, .ofLogs report.logs ++ (placed.applyAll report.events).2) [] :=
    .none (failures_applyAll placed report.events) (by rw [applied]; rfl)
  have failed := (placed.applyAll report.events).1.reports_failAll run.id report.failures
  have number : (placed.applyAll report.events).1.runId = session.runId := by rw [applied]; rfl
  rw [number] at failed
  exact quiet.append (by rw [applied]; rfl) failed

/-- The place of the current run, if its host is up. -/
def up? (session : Session) : Option Nat :=
  session.current.filter fun place => (session.runAt? place).any (·.isLive)

theorem up?_eq_some_iff (session : Session) (place : Nat) :
    session.up? = some place ↔
      session.current = some place ∧ ∃ run, session.runAt? place = some run ∧ run.isLive = true := by
  rw [up?, Option.filter_eq_some_iff, Option.any_eq_true]

theorem up?_of_current {session : Session} {place : Nat} {run : Run}
    (current : session.current = some place) (found : session.runAt? place = some run) :
    session.up? = if run.isLive then some place else none := by
  simp [up?, current, found, Option.filter]

/-- Another run at a place has a say only if it is the current one. -/
theorem up?_setRun {session : Session} {place : Nat} {run : Run} (later : Run)
    (found : session.runAt? place = some run) :
    (session.setRun place later).up? =
      if session.current = some place then (if later.isLive then some place else none)
      else session.up? := by
  split
  · next current =>
    have here : (session.setRun place later).runAt? place = some later := by
      simp [runAt?_setRun, found]
    exact up?_of_current current here
  · next other =>
    have same : (session.setRun place later).current = session.current := rfl
    rw [up?, up?, same]
    cases current : session.current with
    | none => rfl
    | some current' =>
      have elsewhere : place ≠ current' := fun here => other (by rw [current, here])
      simp [Option.filter, runAt?_setRun, elsewhere]

end Session

/-! ## The account of a session -/

/-- A message changes neither the number of its run nor whether its host is up, and is no failure. -/
theorem Run.kept_of_receive {run after : Run} {message : Message} {report : RunReport}
    (taken : run.receive message = .ok (after, report)) :
    after.id = run.id ∧ after.passesFailures = run.passesFailures ∧ after.isLive = run.isLive ∧
      report.failures = [] := by
  rcases receive_cases taken with ⟨rfl, rfl⟩ | ⟨rfl, quiet⟩ | ⟨rfl, event, -, rfl⟩
  · exact ⟨rfl, rfl, rfl, rfl⟩
  · exact ⟨rfl, rfl, rfl, quiet.2⟩
  · exact ⟨rfl, rfl, rfl, failures_report after event⟩

namespace Watch

/-- An account that is right about a session. -/
structure Sees (watch : Watch) (session : Session) : Prop where
  /-- The settings that preparation uses. -/
  functions : watch.functions = session.settings.consoleFunctions.map String.toList
  /-- The context. -/
  context : watch.context = session.context
  /-- The current number. -/
  runId : watch.runId = session.runId
  /-- The number of runs. -/
  made : watch.made = session.runs.length
  /-- Whether the session is closed. -/
  closed : watch.closed = session.closed
  /-- The receivers of failures. -/
  receivers : watch.receivers = session.failureListeners
  /-- The host that is up is that of the current run. -/
  up : watch.up = session.up?
  /-- The current run has the current number and passes its failures on. -/
  own : ∀ place run, session.current = some place → session.runAt? place = some run →
    run.id = session.runId ∧ run.passesFailures = true

variable {watch : Watch} {session : Session}

theorem sees_start (settings : Settings) (given : Option Margin) (base : Option Path)
    (document : DocumentChange) :
    (Watch.start settings base document).Sees (Session.create settings given base document).1 where
  functions := rfl
  context := rfl
  runId := rfl
  made := rfl
  closed := rfl
  receivers := rfl
  up := rfl
  own := fun place run current => by cases current

/-- Neither the margin nor the last failure is part of the account. -/
theorem Sees.withMargin (sees : watch.Sees session) (margin : Margin) (lastFailure : Option Failure) :
    watch.Sees { session with margin, lastFailure } :=
  ⟨sees.functions, sees.context, sees.runId, sees.made, sees.closed, sees.receivers, sees.up, sees.own⟩

/-- A run with the same number that still passes its failures on is put back at its place. -/
theorem Sees.setRun (sees : watch.Sees session) {place : Nat} {run : Run} (later : Run)
    (found : session.runAt? place = some run) (id : later.id = run.id)
    (passes : later.passesFailures = run.passesFailures) {up : Option Nat}
    (live : up = if session.current = some place then (if later.isLive then some place else none)
      else session.up?) :
    { watch with up }.Sees (session.setRun place later) where
  functions := sees.functions
  context := sees.context
  runId := sees.runId
  made := sees.made.trans (session.length_runs_setRun place later).symm
  closed := sees.closed
  receivers := sees.receivers
  up := live.trans (Session.up?_setRun later found).symm
  own := fun other same current foundSame => by
    rw [Session.runAt?_setRun] at foundSame
    by_cases here : place = other
    · subst here
      simp only [found, Option.map_some, if_true, Option.some.injEq] at foundSame
      rw [← foundSame, id, passes]
      exact sees.own place run current found
    · rw [if_neg here] at foundSame
      exact sees.own other same current foundSame

/-- A run with the same number that is as live as before is put back at its place. -/
theorem Sees.setRun_of_isLive_eq (sees : watch.Sees session) {place : Nat} {run : Run} (later : Run)
    (found : session.runAt? place = some run) (id : later.id = run.id)
    (passes : later.passesFailures = run.passesFailures) (live : later.isLive = run.isLive) :
    watch.Sees (session.setRun place later) := by
  refine sees.setRun later found id passes ?_
  rw [sees.up, live]
  split
  · next current => exact Session.up?_of_current current found
  · rfl

/-! ## Submitting -/

/-- Clearing a session for a submission. -/
theorem Sees.cleared (sees : watch.Sees session) (base : Option Path) (document : DocumentChange) :
    (watch.renewed base document).Sees (session.cleared base document) := by
  have changed := session.context_cleared base document
  obtain ⟨runs, context, after, length, -⟩ := session.cleared_spec base document
  rw [after] at changed ⊢
  exact
    { functions := sees.functions
      context := by
        have context := sees.context
        rw [renewed, context]
        exact changed.symm
      runId := congrArg (· + 1) sees.runId
      made := sees.made.trans length.symm
      closed := sees.closed
      receivers := sees.receivers
      up := rfl
      own := fun place run current => by cases current }

/-- The newest run, which is the current one and up, or over. -/
theorem Sees.withNewest (sees : watch.Sees session) {hosted : HostedRun}
    (id : hosted.run.id = session.runId) (passes : hosted.run.passesFailures = true)
    {current up : Option Nat}
    (live : (current = none ∧ up = none) ∨
      (current = some session.runs.length ∧ hosted.run.isLive = true ∧ up = some watch.made)) :
    { watch with made := watch.made + 1, up }.Sees (session.withNewest hosted current) where
  functions := sees.functions
  context := sees.context
  runId := sees.runId
  made := by simp [Session.withNewest, sees.made]
  closed := sees.closed
  receivers := sees.receivers
  up := by
    rcases live with ⟨rfl, rfl⟩ | ⟨rfl, live, rfl⟩
    · rfl
    · rw [Session.up?_of_current rfl (session.runAt?_withNewest_self hosted _), if_pos live, sees.made]
  own := fun place run isCurrent found => by
    rcases live with ⟨rfl, -⟩ | ⟨rfl, -⟩
    · cases isCurrent
    · obtain rfl : session.runs.length = place := Option.some.inj isCurrent
      rw [Session.runAt?_withNewest_self, Option.some.injEq] at found
      rw [← found]
      exact ⟨id, passes⟩

/-- A run that is started and fed has its number, passes its failures on, and its host is up. -/
theorem fed_fresh (id : Int) {pipe : Pipe} (fine : pipe.startFault = none) (code : List Char) :
    let fed := ((Run.fresh id true pipe).start.1.feed code).1
    fed.id = id ∧ fed.passesFailures = true ∧ fed.isLive = true := by
  intro fed
  have running : (Run.fresh id true pipe).start.1 = { Run.fresh id true pipe with state := .running } := by
    rw [Run.start_fresh id true fine]
  obtain ⟨sent, nextLine, ended, state, after, -, up, -⟩ :=
    (Run.fresh id true pipe).start.1.feed_spec code (by rw [running])
  have result : fed = _ := after
  rw [running] at result
  rw [Run.isLive_iff, result]
  exact ⟨rfl, rfl, up⟩

/-- A submission keeps the account right, and only the failure of a host that cannot be started is
reported. -/
theorem Sees.submit (sees : watch.Sees session) (tree : Tree) (startFault : Option String)
    (capacity : Option Nat) (text : List Char) (base : Option Path) (document : DocumentChange) :
    (watch.submit tree startFault text base document).1.Sees
        (session.step (.submit tree startFault capacity text base document)).1 ∧
      session.Reports (session.step (.submit tree startFault capacity text base document))
        (watch.submit tree startFault text base document).2 := by
  cases closed : session.closed with
  | true =>
    have refuses : watch.closed = true := sees.closed.trans closed
    simp only [Watch.submit, refuses, if_true, Session.step, Session.submit_of_closed closed]
    exact ⟨sees, .none rfl rfl⟩
  | false =>
    have opened : watch.closed = false := sees.closed.trans closed
    have seesCleared := sees.cleared base document
    have quiet := (session.clearedReport_spec base document).1
    obtain ⟨runs, context, cleared, -⟩ := session.cleared_spec base document
    have last : (session.cleared base document).lastFailure = session.lastFailure := by rw [cleared]
    have receivers : (session.cleared base document).failureListeners = session.failureListeners := by
      rw [cleared]
    have setting : (session.cleared base document).setting tree =
        ⟨tree, (watch.renewed base document).context, (watch.renewed base document).functions⟩ := by
      rw [seesCleared.context, seesCleared.functions]
      rfl
    simp only [Watch.submit, opened, Bool.false_eq_true, if_false, Session.step, ← setting]
    cases prepared : Preparation.document ((session.cleared base document).setting tree) text with
    | error error =>
      simp only [Session.submit_of_lookup closed prepared]
      exact ⟨seesCleared, .none quiet last⟩
    | ok result =>
      obtain ⟨code, logs⟩ := result
      cases startFault with
      | some reason =>
        have outcome : session.submit tree (.fresh (some reason) capacity) text base document = _ :=
          Session.submit_of_fault closed prepared rfl
        -- The run is made and over at once, and its failure is reported under its own number.
        have fault : (Pipe.fresh (some reason) capacity).startFault = some reason := rfl
        have begun := Run.start_fresh_of_fault (session.cleared base document).runId true fault
        simp only [outcome, Session.newRun, begun]
        refine ⟨(seesCleared.withNewest rfl rfl (.inl ⟨rfl, rfl⟩)).withMargin _ _, ?_, rfl⟩
        rw [Session.failures_announced, Session.failures_failureReport, receivers]
        exact (List.append_nil _).symm
      | none =>
        have fine : (Pipe.fresh none capacity).startFault = none := rfl
        obtain ⟨id, passes, live⟩ := fed_fresh (session.cleared base document).runId fine code
        have outcome : session.submit tree (.fresh none capacity) text base document = _ :=
          Session.submit_of_start closed prepared rfl
        simp only [outcome]
        refine ⟨seesCleared.withNewest id passes (.inr ⟨rfl, live, rfl⟩), .none ?_ last⟩
        rw [Session.failures_announced]
        rfl

/-- Closing keeps the account right, and reports no failure. -/
theorem Sees.close (sees : watch.Sees session) :
    (watch.step .close).1.Sees session.close.1 ∧ session.Reports session.close (watch.step .close).2 := by
  obtain ⟨logs, report⟩ := session.close_snd
  have quiet : session.close.2.failures = [] := by rw [report]; rfl
  cases closed : session.closed with
  | true =>
    have already : watch.closed = true := sees.closed.trans closed
    simp only [Watch.step, already, if_true]
    rw [Session.close_of_closed closed] at quiet ⊢
    exact ⟨sees, .none quiet rfl⟩
  | false =>
    have opened : watch.closed = false := sees.closed.trans closed
    obtain ⟨runs, after, length, -⟩ := Session.close_of_open closed
    simp only [Watch.step, opened, Bool.false_eq_true, if_false]
    refine ⟨?_, .none quiet (by rw [after])⟩
    rw [after]
    exact
      { functions := sees.functions
        context := sees.context
        runId := congrArg (· + 1) sees.runId
        made := sees.made.trans length.symm
        closed := rfl
        receivers := sees.receivers
        up := rfl
        own := fun place run current => by cases current }

/-! ## Steps -/

/-- The host of a run is down if by the account it is not the one that is up. -/
theorem Sees.isLive_eq_false (sees : watch.Sees session) (sound : session.Sound) {place : Nat} {run : Run}
    (found : session.runAt? place = some run) (down : watch.up ≠ some place) : run.isLive = false := by
  rw [Bool.eq_false_iff]
  intro live
  -- A run that is not the current one is over in every sound session.
  by_cases current : session.current = some place
  · exact down (sees.up.trans ((session.up?_eq_some_iff place).mpr ⟨current, run, found, live⟩))
  · have past := (sound.ended place run found current).1
    simp [Run.isLive, past] at live

/-- The exit of a host keeps the account right, and only that of the host that is up is reported, if nobody
asked for it. -/
theorem Sees.exit (sees : watch.Sees session) (sound : session.Sound) (place : Nat) (code : Option Int)
    (troubleText : String) (requested : Bool) :
    (watch.step (.exit place code troubleText requested)).1.Sees
        (session.step (.exit place code troubleText requested)).1 ∧
      session.Reports (session.step (.exit place code troubleText requested))
        (watch.step (.exit place code troubleText requested)).2 := by
  rcases session.step_exit place code troubleText requested with ⟨absent, same⟩ | ⟨run, gone, report, found,
    result, isGone, -, failures⟩
  · have down : watch.up ≠ some place := by
      rw [sees.up, Ne, Session.up?_eq_some_iff]
      rintro ⟨-, run, found, -⟩
      simp [absent] at found
    rw [same]
    simp only [Watch.step, if_neg down]
    exact ⟨sees, .none rfl rfl⟩
  · have id : gone.id = run.id := by rw [isGone]
    have passes : gone.passesFailures = run.passesFailures := by rw [isGone]
    have past : gone.isLive = false := by rw [isGone]; rfl
    have reported := session.reports_absorb place gone report
    obtain ⟨lastFailure, after⟩ := session.absorb_fst place gone report
    rw [failures] at reported
    rw [result, after]
    by_cases up : watch.up = some place
    · -- The host that is up is that of the current run, which carries the current number.
      obtain ⟨current, same, foundSame, live⟩ := (session.up?_eq_some_iff place).mp (sees.up.symm.trans up)
      obtain rfl : run = same := Option.some.inj (found.symm.trans foundSame)
      obtain ⟨number, passesOn⟩ := sees.own place run current found
      have down := sees.setRun gone found id passes (if_pos current).symm
      rw [past] at down
      rw [if_pos (id.trans number), live, passesOn] at reported
      simp only [Watch.step, if_pos up]
      refine ⟨down.withMargin _ _, ?_⟩
      cases requested with
      | true => exact reported
      | false => exact reported
    · -- Any other host is down already, so that its run has no failure to pass on.
      have down := sees.isLive_eq_false sound found up
      rw [down] at reported
      simp only [Watch.step, if_neg up]
      refine ⟨(sees.setRun_of_isLive_eq gone found id passes (past.trans down.symm)).withMargin _ _, ?_⟩
      simpa using reported

/-- **A step keeps the account right**, and the session reports what the account says. -/
theorem Sees.step (sees : watch.Sees session) (sound : session.Sound) (step : SessionStep) :
    (watch.step step).1.Sees (session.step step).1 ∧
      session.Reports (session.step step) (watch.step step).2 := by
  cases step with
  | submit tree startFault capacity text base document =>
    exact sees.submit tree startFault capacity text base document
  | close => exact sees.close
  | setContext base document =>
    refine ⟨{ sees with context := ?_, up := sees.up, own := sees.own }, .none rfl rfl⟩
    exact congrArg (Session.changeContext · base document) sees.context
  | message place message =>
    rcases session.step_message place message with ⟨same, quiet, -⟩ | ⟨run, after, report, found, taken,
      result, -⟩
    · rw [same]
      exact ⟨sees, .none (by rw [quiet]; rfl) (by rw [same])⟩
    · obtain ⟨lastFailure, absorbed⟩ := session.absorb_fst place after report
      have reported := session.reports_absorb place after report
      have kept := Run.kept_of_receive taken
      rw [kept.2.2.2, ite_self] at reported
      rw [result, absorbed]
      exact ⟨(sees.setRun_of_isLive_eq after found kept.1 kept.2.1 kept.2.2.1).withMargin _ _, reported⟩
  | hold place message =>
    cases found : session.runAt? place with
    | none =>
      simp only [Session.step, found]
      exact ⟨sees, .none rfl rfl⟩
    | some run =>
      cases taken : run.receive message with
      | error fault =>
        simp only [Session.step, found, taken]
        exact ⟨sees, .none rfl rfl⟩
      | ok result =>
        obtain ⟨id, passes, live, -⟩ := Run.kept_of_receive taken
        simp only [Session.step, found, taken]
        exact ⟨sees.setRun_of_isLive_eq result.1 found id passes live, .none rfl rfl⟩
  | exit place code troubleText requested => exact sees.exit sound place code troubleText requested
  | failure runId failure =>
    obtain ⟨lastFailure, failed⟩ := session.fail_fst runId failure
    have reported := session.reports_fail runId failure
    simp only [Watch.step, sees.runId, Session.step]
    refine ⟨?_, reported⟩
    rw [failed]
    exact sees.withMargin session.margin lastFailure
  | event event =>
    have reported : session.Reports (session.applyQueued event) [] :=
      .none (session.failures_applyQueued event) (by rw [Session.applyQueued_fst])
    refine ⟨?_, reported⟩
    simp only [Session.step, Session.applyQueued_fst]
    exact sees.withMargin _ session.lastFailure
  | listen listener =>
    exact ⟨sees.withMargin (session.margin.addListener listener) session.lastFailure, .none rfl rfl⟩
  | listenFailures listener =>
    refine ⟨{ sees with receivers := ?_, up := sees.up, own := sees.own }, .none rfl rfl⟩
    exact congrArg (· ++ [listener]) sees.receivers

/-- **A history keeps the account right**, and the session reports in its course what the account says. -/
theorem Sees.afterSteps (sees : watch.Sees session) (sound : session.Sound) (history : List SessionStep) :
    (watch.after history).Sees (session.afterSteps history) ∧
      (session.reports history).flatMap (·.failures) = watch.calls history ∧
      (session.afterSteps history).lastFailure =
        (watch.reported history).getLast?.or session.lastFailure := by
  induction history generalizing watch session with
  | nil => exact ⟨sees, rfl, rfl⟩
  | cons step history ih =>
    obtain ⟨next, first⟩ := sees.step sound step
    obtain ⟨later, calls, last⟩ := ih next (sound.step step)
    refine ⟨later, ?_, ?_⟩
    · rw [Session.reports_cons, List.flatMap_cons, calls, first.calls, ← sees.receivers]
      rfl
    · rw [Session.afterSteps_cons, last, first.last, reported, List.getLast?_append, Option.or_assoc]

end Watch

namespace Session

/-! ## Failures that are not reported -/

/-- A step that no receiver of failures hears of, and that leaves the last failure as it is. -/
def Unreported (session : Session) (step : SessionStep) : Prop :=
  (session.step step).2.failures = [] ∧ (session.step step).1.lastFailure = session.lastFailure

variable {session : Session}

theorem Reports.unreported {step : SessionStep} (reported : session.Reports (session.step step) []) :
    session.Unreported step := ⟨reported.calls, reported.last⟩

/-- A failure of the past is not reported. -/
theorem unreported_failure {runId : Int} (past : runId ≠ session.runId) (failure : Failure) :
    session.Unreported (.failure runId failure) := by
  have reported := session.reports_fail runId failure
  rw [if_neg past] at reported
  exact Reports.unreported reported

/-- The exit of a host whose run is over is not reported. -/
theorem unreported_exit {watch : Watch} (sees : watch.Sees session) (sound : session.Sound) {place : Nat}
    {run : Run} (found : session.runAt? place = some run) (past : run.state = .terminated)
    (code : Option Int) (troubleText : String) (requested : Bool) :
    session.Unreported (.exit place code troubleText requested) := by
  have down : watch.up ≠ some place := by
    rw [sees.up, Ne, up?_eq_some_iff]
    rintro ⟨-, same, foundSame, live⟩
    obtain rfl : run = same := Option.some.inj (found.symm.trans foundSame)
    simp [Run.isLive, past] at live
  have reported := (sees.exit sound place code troubleText requested).2
  simp only [Watch.step, if_neg down] at reported
  exact reported.unreported

/-- The exit of a host whose run has an earlier number is not reported. -/
theorem unreported_exit_of_number {watch : Watch} (sees : watch.Sees session) (sound : session.Sound)
    {place : Nat} {run : Run} (found : session.runAt? place = some run) (past : run.id ≠ session.runId)
    (code : Option Int) (troubleText : String) (requested : Bool) :
    session.Unreported (.exit place code troubleText requested) := by
  have other : session.current ≠ some place := fun current => past (sees.own place run current found).1
  exact unreported_exit sees sound found (sound.ended place run found other).1 code troubleText requested

/-- A run whose host is gone is over. -/
theorem terminated_of_exit {place : Nat} {run : Run} (found : session.runAt? place = some run)
    (code : Option Int) (troubleText : String) (requested : Bool) :
    ∃ gone, (session.step (.exit place code troubleText requested)).1.runAt? place = some gone ∧
      gone.state = .terminated := by
  rcases session.step_exit place code troubleText requested with ⟨absent, -⟩ | ⟨same, gone, report, -, result,
    isGone, -⟩
  · rw [found] at absent
    cases absent
  · obtain ⟨lastFailure, after⟩ := session.absorb_fst place gone report
    have placed : (session.setRun place gone).runAt? place = some gone := by
      rw [runAt?_setRun, if_pos rfl, found, Option.map_some]
    rw [result, after]
    exact ⟨gone, placed, by rw [isGone]⟩

/-! ## Failures and the margin -/

/-- The exit of a host has no effect on the margin. -/
theorem silent_exit (session : Session) (place : Nat) (code : Option Int) (troubleText : String)
    (requested : Bool) : session.Silent (.exit place code troubleText requested) := by
  rcases session.step_exit place code troubleText requested with ⟨-, same⟩ | ⟨run, gone, report, -, result, -,
    none, -⟩
  · rw [Silent, same]
    exact ⟨rfl, rfl⟩
  · obtain ⟨lastFailure, after⟩ := session.absorb_fst place gone report
    rw [Silent, result]
    refine ⟨?_, session.published_absorb place gone report ?_⟩
    · rw [after, none]
      rfl
    · rw [none]
      exact fun event member => absurd member List.not_mem_nil

/-- A failure has no effect on the margin. -/
theorem silent_failure (session : Session) (runId : Int) (failure : Failure) :
    session.Silent (.failure runId failure) := by
  obtain ⟨lastFailure, failed⟩ := session.fail_fst runId failure
  refine ⟨?_, session.published_fail runId failure⟩
  simp only [step, failed]

/-- A submission does the same to the margin if its host cannot be started. -/
theorem margin_submit_of_fault (session : Session) (tree : Tree) (reason : String) (capacity : Option Nat)
    (text : List Char) (base : Option Path) (document : DocumentChange) :
    let failed := session.step (.submit tree (some reason) capacity text base document)
    let fine := session.step (.submit tree none capacity text base document)
    failed.1.margin = fine.1.margin ∧ failed.2.published = fine.2.published := by
  cases closed : session.closed with
  | true =>
    simp only [step, submit_of_closed closed, and_self]
  | false =>
    refine ⟨?_, ?_⟩
    · simp only [step, margin_submit closed]
    · simp only [step]
      cases prepared : Preparation.document ((session.cleared base document).setting tree) text with
      | error error => rw [submit_of_lookup closed prepared, submit_of_lookup closed prepared]
      | ok result =>
        obtain ⟨code, logs⟩ := result
        -- All that is published is the empty margin, before the host is started.
        rw [submit_of_fault closed prepared rfl, submit_of_start closed prepared rfl]
        rfl

end Session

/-- **Failures are reported once and only for the current run**, after every history of a session. The
calls of the receivers of failures are those of the account that watches the history: every receiver gets
each failure of the account, in order, and one that is added once gets each later failure once. The host
that is up by the account is that of the current run while that run is running or draining. The last
failure is the last one that was reported. Nothing is reported for the exit of a host whose run is over,
for a second exit of a host, and for an exit or a failure of a run that a submission or closing has
superseded. And no failure has an effect on the margin. -/
theorem failures_reported_once (settings : Settings) (given : Option Margin) (base : Option Path)
    (document : DocumentChange) (history : List SessionStep) :
    let first := (Session.create settings given base document).1
    let session := first.afterSteps history
    let watch := Watch.start settings base document
    ((first.reports history).flatMap (·.failures) = watch.calls history ∧
      ∀ early late listener, history = early ++ .listenFailures listener :: late →
        .listenFailures listener ∉ early → .listenFailures listener ∉ late →
        Watch.received listener ((first.reports history).flatMap (·.failures)) =
          (watch.after early).reported (.listenFailures listener :: late)) ∧
    ((watch.after history).runId = session.runId ∧
      (watch.after history).receivers = session.failureListeners ∧
      ∀ place, (watch.after history).up = some place ↔
        session.current = some place ∧
          ∃ run, session.runAt? place = some run ∧ (run.state = .running ∨ run.state = .draining)) ∧
    session.lastFailure = (watch.reported history).getLast? ∧
    ((∀ place run, session.runAt? place = some run → run.state = .terminated →
        ∀ code troubleText requested, session.Unreported (.exit place code troubleText requested)) ∧
      (∀ early place code troubleText requested late,
        history = early ++ .exit place code troubleText requested :: late →
        (∃ run, (first.afterSteps early).runAt? place = some run) →
        ∀ code troubleText requested, session.Unreported (.exit place code troubleText requested)) ∧
      ∀ early step late, history = early ++ step :: late → step.supersedes = true →
        (first.afterSteps early).closed = false →
        ∀ place run, (first.afterSteps early).runAt? place = some run →
          (∀ code troubleText requested, session.Unreported (.exit place code troubleText requested)) ∧
          ∀ failure, session.Unreported (.failure run.id failure)) ∧
    ((∀ place code troubleText requested, session.Silent (.exit place code troubleText requested)) ∧
      (∀ runId failure, session.Silent (.failure runId failure)) ∧
      ∀ tree reason capacity text base document,
        let failed := session.step (.submit tree (some reason) capacity text base document)
        let fine := session.step (.submit tree none capacity text base document)
        failed.1.margin = fine.1.margin ∧ failed.2.published = fine.2.published) := by
  intro first session watch
  have soundFirst : first.Sound := Session.sound_create settings given base document
  have sound : session.Sound := soundFirst.afterSteps history
  obtain ⟨sees, calls, last⟩ :
      (watch.after history).Sees session ∧ _ ∧ session.lastFailure = _ :=
    (Watch.sees_start settings given base document).afterSteps soundFirst history
  -- A history that is cut at one of its steps.
  have reached {early : List SessionStep} {step : SessionStep} {late : List SessionStep}
      (split : history = early ++ step :: late) :
      session = ((first.afterSteps early).step step).1.afterSteps late := by
    show first.afterSteps history = _
    rw [split, Session.afterSteps_append]
    rfl
  refine ⟨⟨calls, ?_⟩, ⟨sees.runId, sees.receivers, fun place => ?_⟩, ?_, ⟨?_, ?_, ?_⟩, ?_, ?_, ?_⟩
  · intro early late listener split before later
    rw [calls, split]
    exact watch.received_of_added_once List.not_mem_nil before later
  · simp only [sees.up, Session.up?_eq_some_iff, Run.isLive_iff]
  · exact last.trans Option.or_none
  · exact fun place run found past code troubleText requested =>
      Session.unreported_exit sees sound found past code troubleText requested
  · -- The first exit ended the run of the host, and no later step takes that back.
    intro early place _ _ _ late split existed code troubleText requested
    obtain ⟨run, foundEarly⟩ := existed
    obtain ⟨gone, foundGone, past⟩ := Session.terminated_of_exit foundEarly _ _ _
    obtain ⟨later, found, goesOn⟩ := (Session.runsGoOn_afterSteps _ late).2 place gone foundGone
    rw [← reached split] at found
    exact Session.unreported_exit sees sound found (goesOn.terminated past) code troubleText requested
  · -- The number of a superseded run never becomes current again.
    intro early step late split supersedes opened place run foundEarly
    have soundEarly : (first.afterSteps early).Sound := soundFirst.afterSteps early
    obtain ⟨past, later, found, sameId⟩ :=
      Session.id_lt_of_superseded soundEarly opened supersedes late foundEarly
    rw [← reached split] at past found
    refine ⟨fun code troubleText requested => ?_, fun failure => ?_⟩
    · exact Session.unreported_exit_of_number sees sound found (by omega) code troubleText requested
    · exact Session.unreported_failure (by omega) failure
  · exact session.silent_exit
  · exact session.silent_failure
  · exact session.margin_submit_of_fault

/-- One crash, one late report and one failed start are reported; what comes twice, too late or on request is
not. -/
example :
    let listener : Listener := ⟨"receiver", true⟩
    let submit (fault : Option String) : SessionStep := .submit ⟨[], []⟩ fault none "x".toList none .keep
    let history : List SessionStep :=
      [.listenFailures listener, submit none, .exit 0 (some 1) "" false, .exit 0 (some 1) "" false,
        .failure 1 (.notStarted "late"), submit (some "no host"), .exit 1 none "" false,
        .failure 1 (.notStarted "stale"), submit none, .exit 2 none "" true, .exit 2 none "" false]
    (Watch.start .standard none .keep).calls history =
      [(listener, .ofExit (some 1) ""), (listener, .notStarted "late"), (listener, .notStarted "no host")] := by
  decide +kernel

end Marginalia

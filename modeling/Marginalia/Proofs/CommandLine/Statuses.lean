import Marginalia.Main
import Marginalia.Proofs.CommandLine.Conduct
import Marginalia.Proofs.Session.Delivery

/-! # Exit statuses
What the status of a call says (`statuses_tell`). A call comes to nothing but a text, to a wrong command
line, to a file or settings that cannot be used, or to the evaluation of one document (`run_cases`); and an
evaluation ends as its host does (`status_evaluate`), unless a module of the document cannot be looked up, or
feeding breaks off, the late results cannot be waited for, or the results cannot be printed. A host is heard at
one point of the submission (`HostScript.stage`): where its end is noticed before the document is fed, feeding is
refused, and where it is noticed later, its failure counts once it is on record. -/

namespace Marginalia.CommandLine

open Text File

/-- The status with which the program ends. -/
def Outcome.status (outcome : Outcome) : Nat := outcome.ending.report.1

/-! ## A session at work -/

/-- What noticing the end of a host makes of its run. -/
def HostEnd.leaves (ending : HostEnd) (run : Run) : Run :=
  match ending.noted with
  | .drained => run.hostLeft false
  | .ended => run.hostLeft true
  | .failed =>
    { run with pipe := { run.pipe with troubleText := ending.troubleText }, state := .terminated, drained := true }

namespace HostScript

/-- The messages of the host, or its end, say that there is nothing more to report. -/
def drains (script : HostScript) : Bool := script.messages.any (·.isDrained) || script.ending.isSome

/-- The end of the host is noticed before the document is fed, so that it is not. -/
def endsUnfed (script : HostScript) : Bool :=
  script.ending.any fun ending => decide (ending.stage ≠ .fed ∧ ending.noted ≠ .drained)

/-- The failure of the host is on record. -/
def failureNoted (script : HostScript) : Bool :=
  script.ending.any fun ending => decide (ending.stage = .fed ∧ ending.noted = .failed)

/-- What hearing the host makes of its run. -/
def leaves (script : HostScript) (run : Run) : Run :=
  let told := { run with drained := run.drained || script.messages.any (·.isDrained) }
  (script.ending.map (·.leaves told)).getD told

/-- A host whose end is noted no further leaves its run as it is, but drains it. -/
theorem leaves_of_goesOn {script : HostScript} (goesOn : ∀ ending ∈ script.ending, ending.noted = .drained)
    (run : Run) : script.leaves run = { run with drained := run.drained || script.drains } := by
  cases ends : script.ending with
  | none => simp [leaves, drains, ends]
  | some ending => simp [leaves, drains, ends, HostEnd.leaves, goesOn ending ends, Run.hostLeft]

/-- The run of a host whose end is noted further is over. -/
theorem state_leaves {script : HostScript} {ending : HostEnd} (ends : script.ending = some ending)
    (more : ending.noted ≠ .drained) (run : Run) : (script.leaves run).state = .terminated := by
  rw [leaves, ends, Option.map_some, Option.getD_some, HostEnd.leaves]
  cases noted : ending.noted with
  | drained => exact absurd noted more
  | ended => rfl
  | failed => rfl

/-- A host that is heard once the document is fed has its failure on record if that is noted. -/
theorem failureNoted_of_fed {script : HostScript} (last : script.stage = .fed) :
    script.failureNoted = script.ending.any fun ending => decide (ending.noted = .failed) := by
  cases ends : script.ending with
  | none => rw [failureNoted, ends]; rfl
  | some ending =>
    have stage : ending.stage = .fed := by simpa [HostScript.stage, ends] using last
    simp [failureNoted, ends, stage]

/-- A host that is heard before the document is fed has no failure on record. -/
theorem failureNoted_of_unfed {script : HostScript} (early : script.stage ≠ .fed) : script.failureNoted = false := by
  cases ends : script.ending with
  | none => rw [failureNoted, ends]; rfl
  | some ending =>
    have stage : ending.stage ≠ .fed := by simpa [HostScript.stage, ends] using early
    simp [failureNoted, ends, stage]

/-- A host whose end is noticed before the document is fed. -/
theorem endsUnfed_iff {script : HostScript} : script.endsUnfed = true ↔
    ∃ ending, script.ending = some ending ∧ ending.stage ≠ .fed ∧ ending.noted ≠ .drained := by
  simp [endsUnfed, Option.any_eq_true]

/-- Otherwise, the end of a host that is heard before the document is fed is noted no further. -/
theorem noted_of_not_endsUnfed {script : HostScript} (goesOn : script.endsUnfed = false)
    (early : script.stage ≠ .fed) : ∀ ending ∈ script.ending, ending.noted = .drained := by
  intro ending ends
  have stage : ending.stage ≠ .fed := by simpa [HostScript.stage, Option.mem_def.mp ends] using early
  by_contra more
  cases goesOn.symm.trans (endsUnfed_iff.mpr ⟨ending, ends, stage, more⟩)

/-- Hearing the end of a host drains its run. -/
theorem drained_leaves (script : HostScript) (run : Run) :
    (script.leaves run).drained = (run.drained || script.drains) := by
  cases ends : script.ending with
  | none => simp [leaves, drains, ends]
  | some ending =>
    rw [leaves, drains, ends, Option.map_some, Option.getD_some, HostEnd.leaves, Option.isSome_some, Bool.or_true,
      Bool.or_true]
    cases ending.noted <;> rfl

end HostScript

namespace Work

variable {work : Work} {place : Nat} {run : Run} {failed : Bool} {script : HostScript} {stage : Stage}

/-- Closing the session at the end keeps the ending. -/
@[simp] theorem status_finish (work : Work) (verbosity : Nat) (output : String) (ending : Ending) :
    (work.finish verbosity output ending).status = ending.report.1 := rfl

/-- The messages of a host are taken or passed over, and they drain its run if one says so. -/
theorem deliver_spec (atWork : work.session.AtWork place run failed) (messages : List Message) :
    ∃ after, work.deliver place true messages = (after, none) ∧
      after.session.AtWork place { run with drained := run.drained || messages.any (·.isDrained) } failed := by
  induction messages generalizing work run with
  | nil =>
    refine ⟨work, rfl, ?_⟩
    rw [List.any_nil, Bool.or_false]
    exact atWork
  | cons message messages ih =>
    rw [List.any_cons, deliver]
    rcases atWork.receive message with ⟨error, refused, more⟩ | ⟨step, taken, still⟩
    · rw [refused, more, Bool.false_or]
      exact ih atWork
    · have goesOn : (work.after step).session.AtWork place
          { run with drained := run.drained || message.isDrained } failed := still
      rw [taken, ← Bool.or_assoc]
      exact ih goesOn

/-- The end of a host leaves its run as it is noted, and a failure is remembered if the host was up. -/
theorem note_spec (atWork : work.session.AtWork place run failed) (ending : HostEnd) :
    (work.note place ending).session.AtWork place (ending.leaves run)
      (decide (ending.noted = .failed) && run.isLive || failed) := by
  rw [note, HostEnd.leaves]
  cases ending.noted with
  | drained => exact atWork.hostLeft false
  | ended => exact atWork.hostLeft true
  | failed => exact atWork.hostExited ending.code ending.troubleText

/-- A host that is to be heard later leaves everything as it is. -/
theorem hear_of_other (later : script.stage ≠ stage) : work.hear stage place script = (work, none) := if_neg later

/-- A host that is heard changes its run alone, and a failure is remembered if it is noted and the host was up. -/
theorem hear_spec (atWork : work.session.AtWork place run failed) (guarded : script.guarded = true)
    (here : script.stage = stage) :
    ∃ after, work.hear stage place script = (after, none) ∧
      after.session.AtWork place (script.leaves run)
        (script.ending.any (fun ending => decide (ending.noted = .failed)) && run.isLive || failed) := by
  obtain ⟨told, delivered, still⟩ := deliver_spec atWork script.messages
  refine ⟨(script.ending.map (told.note place)).getD told, ?_, ?_⟩
  · rw [hear, if_pos here, guarded, delivered]
  · rw [HostScript.leaves]
    cases script.ending with
    | none => exact still
    | some ending => exact note_spec still ending

/-- Noting that the host is up makes the run go on. -/
theorem enter_spec (atWork : work.session.AtWork place run failed) :
    (work.after (work.session.enterRun place)).session.AtWork place run.enter.1 failed := atWork.enterRun

section Feed

variable {code : List Char}

/-- A run that is over is not fed. -/
theorem feed_of_ne_running (atWork : work.session.AtWork place run failed) (other : run.state ≠ .running) :
    ∃ after reason, work.feed ⟨place, code⟩ script = (after, .hostFailed reason) := by
  have refused := Run.deliver_of_ne_running code other
  have feeding : work.session.feedRun ⟨place, code⟩ =
      (work.session.setRun place run, .ofLogs [], .error (.run (.cannotFeed run.state))) := by
    simp only [Session.feedRun, atWork.found, refused]
    rfl
  rw [feed, feeding]
  exact ⟨_, _, rfl⟩

/-- Feeding that breaks off breaks the submission off. -/
theorem feed_of_breaksOff (atWork : work.session.AtWork place run failed) (running : run.state = .running)
    (breaks : run.pipe.BreaksOff code run.nextLine) :
    ∃ after fault, work.feed ⟨place, code⟩ script = (after, .brokenOff fault) := by
  obtain ⟨fault, broken⟩ := Run.exists_fault running breaks
  obtain ⟨after, report, feeding, -⟩ := atWork.feedRun running code
  rw [broken] at feeding
  rw [feed, feeding]
  exact ⟨_, _, rfl⟩

/-- A document that is fed is evaluated. -/
theorem feed_of_delivered (atWork : work.session.AtWork place run failed) (running : run.state = .running)
    (goesOn : ¬ run.pipe.BreaksOff code run.nextLine) (guarded : script.guarded = true) :
    ∃ after, work.feed ⟨place, code⟩ script = (after, .evaluated) ∧
      after.session.drained = (run.drained || script.stage = .fed && script.drains) ∧
      after.session.lastFailure.isSome = (script.failureNoted || failed) := by
  obtain ⟨delivery, whole⟩ := Run.exists_delivery running goesOn
  obtain ⟨session, report, feeding, fed⟩ := atWork.feedRun running code
  rw [whole] at feeding
  -- Sending changes neither the state that the run had nor what is known of its host.
  obtain ⟨sent, nextLine, ended, sentRun, -⟩ := run.deliver_spec code running
  have live : (run.deliver code).1.isLive = true := by
    rw [Run.isLive_iff, sentRun]
    exact .inl running
  have drained : (run.deliver code).1.drained = run.drained := by rw [sentRun]; rfl
  have concluded (later : Run) (delivery : Run.Delivery) : (later.conclude delivery).1.drained = later.drained := by
    rw [Run.conclude_fst]
    split <;> rfl
  let fedWork : Work := ⟨session, work.logs ++ report.logs⟩
  let submission : Session.Submission := ⟨work.session.runId, place, delivery⟩
  have atFed : fedWork.session.AtWork place (run.deliver code).1 failed := fed
  have answer {heard : Work} (hears : fedWork.hear .fed place script = (heard, none)) :
      work.feed ⟨place, code⟩ script = (heard.after (heard.session.conclude submission), .evaluated) := by
    simp only [feed]
    rw [feeding]
    dsimp only
    rw [hears]
  by_cases here : script.stage = .fed
  · obtain ⟨heard, hears, still⟩ := hear_spec atFed guarded here
    have last := still.conclude work.session.runId delivery
    refine ⟨_, answer hears, last.drained_eq.trans ?_, last.lastFailure.trans ?_⟩
    · rw [concluded, HostScript.drained_leaves, drained]
      simp [here]
    · rw [live, Bool.and_true, HostScript.failureNoted_of_fed here]
  · have last := atFed.conclude work.session.runId delivery
    refine ⟨_, answer (hear_of_other here), last.drained_eq.trans ?_, last.lastFailure.trans ?_⟩
    · rw [concluded, drained]
      simp [here]
    · rw [HostScript.failureNoted_of_unfed here, Bool.false_or]

end Feed

/-- A host is up, or its end is noticed before; either way it is heard before the document is fed. -/
theorem hear_before_feeding (atWork : work.session.AtWork place run false) (idle : run.state = .idle)
    (guarded : script.guarded = true) :
    ∃ up after later failed, work.hear .spawned place script = (up, none) ∧
      (up.after (up.session.enterRun place)).hear .up place script = (after, none) ∧
      after.session.AtWork place later failed ∧ (script.endsUnfed = true → later.state = .terminated) ∧
      (script.endsUnfed = false → failed = false ∧ later =
        { run with state := .running, drained := run.drained || script.stage ≠ .fed && script.drains }) := by
  have enters (run : Run) : run.enter.1 = if run.state = .idle then { run with state := .running } else run := by
    rw [Run.enter, Run.goFrom]
    split <;> rfl
  -- Where the end is noted no further, no failure is.
  have unfailed (early : script.stage ≠ .fed) (goesOn : script.endsUnfed = false) :
      script.ending.any (fun ending => decide (ending.noted = .failed)) = false := by
    have drained := HostScript.noted_of_not_endsUnfed goesOn early
    cases ends : script.ending with
    | none => rfl
    | some ending => simp [drained ending ends]
  cases stage : script.stage with
  | spawned =>
    have early : script.stage ≠ .fed := by simp [stage]
    obtain ⟨up, hears, atUp⟩ := hear_spec atWork guarded stage
    have later : script.stage ≠ .up := by simp [stage]
    refine ⟨up, _, _, _, hears, hear_of_other later, enter_spec atUp, fun ends => ?_, fun goesOn => ⟨?_, ?_⟩⟩
    · obtain ⟨ending, known, -, more⟩ := HostScript.endsUnfed_iff.mp ends
      have isOver := HostScript.state_leaves known more run
      rw [enters, if_neg (by simp [isOver])]
      exact isOver
    · rw [unfailed early goesOn]
      rfl
    · rw [enters, HostScript.leaves_of_goesOn (HostScript.noted_of_not_endsUnfed goesOn early), if_pos idle]
      simp
  | up =>
    have early : script.stage ≠ .fed := by simp [stage]
    have later : script.stage ≠ .spawned := by simp [stage]
    obtain ⟨after, hears, atUp⟩ := hear_spec (enter_spec atWork) guarded stage
    refine ⟨work, after, _, _, hear_of_other later, hears, atUp, fun ends => ?_, fun goesOn => ⟨?_, ?_⟩⟩
    · obtain ⟨ending, known, -, more⟩ := HostScript.endsUnfed_iff.mp ends
      exact HostScript.state_leaves known more run.enter.1
    · rw [unfailed early goesOn]
      rfl
    · rw [HostScript.leaves_of_goesOn (HostScript.noted_of_not_endsUnfed goesOn early), enters, if_pos idle]
      simp
  | fed =>
    have notSpawned : script.stage ≠ .spawned := by simp [stage]
    have notUp : script.stage ≠ .up := by simp [stage]
    refine ⟨work, _, _, _, hear_of_other notSpawned, hear_of_other notUp, enter_spec atWork, fun ends => ?_,
      fun _ => ⟨rfl, ?_⟩⟩
    · obtain ⟨ending, known, early, -⟩ := HostScript.endsUnfed_iff.mp ends
      exact absurd (by simpa [HostScript.stage, known] using stage) early
    · rw [enters, if_pos idle]
      simp

section Submit

variable {surroundings : Surroundings} {source : List Char}

/-- The preparation of a document that is submitted without a change of the context. -/
def setting (work : Work) (surroundings : Surroundings) : Preparation.Setting :=
  (work.session.cleared none .keep).setting surroundings.tree

variable (opened : work.session.closed = false)

include opened

/-- A document that cannot be prepared breaks the submission off. -/
theorem submit_of_lookup {error : LookupError}
    (failed : Preparation.document (work.setting surroundings) source = .error error) :
    ∃ after fault, work.submit surroundings source = (after, .brokenOff fault) := by
  simp only [submit, Session.launch_of_lookup opened failed]
  exact ⟨_, _, rfl⟩

variable {code : List Char} {logs : List Log.Record}
  (fine : Preparation.document (work.setting surroundings) source = .ok (code, logs))

include fine

/-- A host that cannot be started fails the submission. -/
theorem submit_of_fault {reason : String} (fault : surroundings.host.startFault = some reason) :
    ∃ after reason, work.submit surroundings source = (after, .hostFailed reason) := by
  have noStart : (Pipe.fresh surroundings.host.startFault surroundings.host.capacity).startFault = some reason := fault
  simp only [submit, Session.launch_of_fault opened fine noStart]
  exact ⟨_, _, rfl⟩

/-- A document whose host is spawned is fed once the host is heard, unless its end is noticed before. -/
theorem submit_of_spawn (starts : surroundings.host.startFault = none)
    (guarded : surroundings.host.guarded = true) (trouble : work.session.lastFailure = none) :
    ∃ (up : Work) (place : Nat) (later : Run) (failed : Bool),
      work.submit surroundings source = up.feed ⟨place, code⟩ surroundings.host ∧
      up.session.AtWork place later failed ∧
      (surroundings.host.endsUnfed = true → later.state = .terminated) ∧
      (surroundings.host.endsUnfed = false → failed = false ∧ later.state = .running ∧ later.nextLine = 1 ∧
        later.pipe = .fresh none surroundings.host.capacity ∧
        later.drained = (surroundings.host.stage ≠ .fed && surroundings.host.drains)) := by
  let cleared := work.session.cleared none .keep
  let pipe := Pipe.fresh surroundings.host.startFault surroundings.host.capacity
  have noFault : pipe.startFault = none := starts
  have last : cleared.lastFailure = none := by
    obtain ⟨runs, context, after, -⟩ := work.session.cleared_spec none .keep
    simp only [cleared, after, trouble]
  let report := work.session.clearedReport none .keep ++ cleared.announcement source logs
  let launched : Work := ⟨cleared.addRun pipe, work.logs ++ report.logs⟩
  have atWork : launched.session.AtWork cleared.runs.length (cleared.newRun pipe) false :=
    Session.atWork_addRun last pipe
  obtain ⟨up, after, later, failed, first, second, atFeeding, isOver, goesOn⟩ :=
    hear_before_feeding atWork rfl guarded
  refine ⟨after, cleared.runs.length, later, failed, ?_, atFeeding, isOver, fun unended => ?_⟩
  · have launching : work.session.launch surroundings.tree
        (.fresh surroundings.host.startFault surroundings.host.capacity) source none .keep =
        (launched.session, report, .ok ⟨cleared.runs.length, code⟩) :=
      Session.launch_of_spawn opened fine noFault
    simp only [submit]
    rw [launching]
    dsimp only
    rw [show Work.hear _ Stage.spawned _ surroundings.host = (up, none) from first]
    dsimp only
    rw [second]
  · obtain ⟨unfailed, rfl⟩ := goesOn unended
    exact ⟨unfailed, rfl, rfl, congrArg (Pipe.fresh · surroundings.host.capacity) starts, Bool.false_or _⟩

end Submit

end Work

/-! ## Evaluating a document -/

/-- How the document of a call is prepared. -/
def Surroundings.setting (surroundings : Surroundings) (arguments : Arguments) (settings : Settings)
    (path : Path) : Preparation.Setting :=
  let given := (arguments.basePath.map Path.ofText).getD path.parent
  ⟨surroundings.tree, ⟨some (surroundings.tree.absolute given), some (surroundings.tree.absolute path)⟩,
    settings.consoleFunctions.map String.toList⟩

/-- The session of a call when it is set up. -/
def Surroundings.work (surroundings : Surroundings) (arguments : Arguments) (settings : Settings) (path : Path) :
    Work :=
  let given := (arguments.basePath.map Path.ofText).getD path.parent
  let created := Session.create settings none (some (surroundings.tree.absolute given))
    (.assign (surroundings.tree.absolute path))
  ⟨created.1, created.2.logs⟩

section Evaluate

variable {surroundings : Surroundings} {arguments : Arguments} {settings : Settings} {path : Path}
  {source : List Char}

/-- The document of a call is prepared where the session of the call is set up. -/
theorem setting_work (surroundings : Surroundings) (arguments : Arguments) (settings : Settings) (path : Path) :
    (surroundings.work arguments settings path).setting surroundings =
      surroundings.setting arguments settings path :=
  (surroundings.work arguments settings path).session.setting_cleared surroundings.tree none .keep

/-- An evaluation ends as its submission came out. Late results that are missing are waited for first, then the
results are printed, and then a failure decides. -/
theorem status_evaluate_eq :
    (evaluate surroundings arguments settings path source).status =
      match (surroundings.work arguments settings path).submit surroundings source with
      | (_, .brokenOff _) => 1
      | (_, .hostFailed _) => 2
      | (after, .evaluated) =>
        if !after.session.drained && settings.drainTimeout.exceedsClock then 1
        else if surroundings.outputFault.isSome then 1
        else if after.session.lastFailure.isSome then 2 else 0 := by
  unfold Surroundings.work
  simp only [evaluate]
  rcases Work.submit _ surroundings source with ⟨after, (_ | reason | fault)⟩
  · dsimp only
    split
    · rfl
    · cases surroundings.outputFault with
      | some fault => rfl
      | none =>
        rw [Work.status_finish, Ending.report]
        cases after.session.lastFailure with
        | none => rfl
        | some failure => rfl
  · rfl
  · rfl

open Classical in
/-- **How an evaluation ends**: as its host does, unless something breaks it off. -/
theorem status_evaluate (guarded : surroundings.host.guarded = true) :
    (evaluate surroundings arguments settings path source).status =
      match Preparation.document (surroundings.setting arguments settings path) source with
      | .error _ => 1
      | .ok (code, _) =>
        if surroundings.host.startFault.isSome || surroundings.host.endsUnfed then 2
        else if (Pipe.fresh none surroundings.host.capacity).BreaksOff code 1 then 1
        else if !surroundings.host.drains && settings.drainTimeout.exceedsClock then 1
        else if surroundings.outputFault.isSome then 1
        else if surroundings.host.failureNoted then 2 else 0 := by
  have opened : (surroundings.work arguments settings path).session.closed = false := rfl
  have setting := setting_work surroundings arguments settings path
  rw [status_evaluate_eq]
  rcases prepared : Preparation.document (surroundings.setting arguments settings path) source with
    error | ⟨code, logs⟩
  · obtain ⟨after, fault, submitted⟩ := Work.submit_of_lookup opened (setting ▸ prepared)
    rw [submitted]
  · cases starts : surroundings.host.startFault with
    | some reason =>
      obtain ⟨after, reason, submitted⟩ := Work.submit_of_fault opened (setting ▸ prepared) starts
      rw [submitted]
      rfl
    | none =>
      obtain ⟨up, place, later, failed, submitted, atWork, isOver, goesOn⟩ :=
        Work.submit_of_spawn opened (setting ▸ prepared) starts guarded rfl
      rw [submitted]
      cases unfed : surroundings.host.endsUnfed with
      | true =>
        have ended : later.state ≠ .running := by simp [isOver unfed]
        obtain ⟨after, reason, refused⟩ := Work.feed_of_ne_running atWork ended
        rw [refused]
        rfl
      | false =>
        obtain ⟨rfl, running, first, pipe, drained⟩ := goesOn unfed
        have breaks : later.pipe.BreaksOff code later.nextLine ↔
            (Pipe.fresh none surroundings.host.capacity).BreaksOff code 1 := by rw [pipe, first]
        by_cases breaksOff : (Pipe.fresh none surroundings.host.capacity).BreaksOff code 1
        · obtain ⟨after, fault, broken⟩ := Work.feed_of_breaksOff atWork running (breaks.mpr breaksOff)
          rw [broken]
          simp [breaksOff]
        · obtain ⟨after, fed, nowDrained, nowFailed⟩ :=
            Work.feed_of_delivered atWork running (mt breaks.mp breaksOff) guarded
          have drains : after.session.drained = surroundings.host.drains := by
            rw [nowDrained, drained]
            by_cases last : surroundings.host.stage = .fed <;> simp [last]
          rw [fed]
          dsimp only
          rw [drains, nowFailed, Bool.or_false, if_neg breaksOff]
          rfl

end Evaluate

/-! ## The settings of a call -/

/-- The settings of a call cannot be used: the interpreter is named by an empty text, or the time to wait for
late results is not above zero. -/
def Arguments.Unsettled (arguments : Arguments) : Prop :=
  arguments.interpreter = some "" ∨
    ∃ timeout, arguments.drainTimeout = some timeout ∧ timeout.isAtMostZero = true

/-- Standard settings with another interpreter and another time to wait: only these two can be at fault. -/
theorem fault?_standard (interpreter : String) (drainTimeout : Seconds) :
    ({ Settings.standard with interpreter, drainTimeout } : Settings).fault? =
      if interpreter.isEmpty then some .noInterpreter
      else if drainTimeout.isAtMostZero then some (.timeoutNotPositive .drain) else none := by
  have named : Settings.standard.consoleFunctions.find? (fun name => !isIdentifier name.toList) = none := by
    decide +kernel
  have startup : Settings.standard.startupTimeout.isAtMostZero = false := by decide
  have terminate : Settings.standard.terminateTimeout.isAtMostZero = false := by decide
  simp only [Settings.fault?, named, startup, terminate]
  rfl

/-- Such settings have a fault if the interpreter is not named or the time to wait is not above zero. -/
theorem isSome_fault?_standard (interpreter : String) (drainTimeout : Seconds) :
    ({ Settings.standard with interpreter, drainTimeout } : Settings).fault?.isSome = true ↔
      interpreter.isEmpty = true ∨ drainTimeout.isAtMostZero = true := by
  rw [fault?_standard]
  split
  · next nameless => exact iff_of_true rfl (.inl nameless)
  · next named =>
    split
    · next short => exact iff_of_true rfl (.inr short)
    · next long => exact iff_of_false nofun (not_or.mpr ⟨named, long⟩)

/-- Settings are refused if there is a fault. -/
theorem validate_eq_error_iff (settings : Settings) :
    (∃ error, settings.validate = .error error) ↔ settings.fault?.isSome = true := by
  rw [Settings.validate]
  cases settings.fault? with
  | none => exact iff_of_false nofun nofun
  | some fault => exact iff_of_true ⟨fault, rfl⟩ rfl

/-- The environment always gives settings: the standard ones with an interpreter that is named. -/
theorem fromEnvironment_spec (environment : List (String × String)) :
    ∃ interpreter, interpreter.isEmpty = false ∧
      Settings.fromEnvironment environment {} = .ok { Settings.standard with interpreter } := by
  -- Whatever names the interpreter, the settings are the standard ones with that interpreter.
  have made (values : SettingsChanges) (interpreter : String) (named : interpreter.isEmpty = false)
      (same : Settings.standard.change values = { Settings.standard with interpreter }) :
      Settings.make? values = .ok { Settings.standard with interpreter } := by
    have whole : ({ Settings.standard with interpreter } : Settings).fault? = none := by
      have fault := fault?_standard interpreter Settings.standard.drainTimeout
      rw [named] at fault
      exact fault
    rw [Settings.make?, same, Settings.validate, whole]
  unfold Settings.fromEnvironment
  dsimp only
  split
  · exact ⟨Settings.standard.interpreter, rfl, made {} _ rfl rfl⟩
  · next given =>
    refine ⟨_, ?_, made _ _ ?_ rfl⟩
    · simpa using given
    · simpa using given

/-- The settings of a call are refused exactly if they cannot be used. -/
theorem settingsFrom_eq_error_iff (surroundings : Surroundings) (arguments : Arguments) :
    (∃ error, settingsFrom surroundings arguments = .error error) ↔ arguments.Unsettled := by
  obtain ⟨interpreter, named, environment⟩ := fromEnvironment_spec surroundings.environment
  let changes : SettingsChanges :=
    { interpreter := arguments.interpreter, drainTimeout := arguments.drainTimeout.map .real }
  have chosen : settingsFrom surroundings arguments =
      ({ Settings.standard with interpreter } : Settings).withChanges changes := by
    rw [settingsFrom, environment]
    rfl
  rw [chosen, Settings.withChanges]
  split
  · next empty =>
    -- Nothing is given, so nothing is checked again.
    obtain ⟨noInterpreter, noTimeout⟩ : arguments.interpreter = none ∧ arguments.drainTimeout = none := by
      have same := eq_of_beq empty
      simpa [changes] using same
    refine iff_of_false nofun ?_
    rintro (nameless | ⟨timeout, given, -⟩)
    · cases noInterpreter.symm.trans nameless
    · cases noTimeout.symm.trans given
  · have changed : ({ Settings.standard with interpreter } : Settings).change changes =
        { Settings.standard with
          interpreter := arguments.interpreter.getD interpreter
          drainTimeout := (arguments.drainTimeout.map .real).getD Settings.standard.drainTimeout } := rfl
    rw [changed, validate_eq_error_iff, isSome_fault?_standard, Arguments.Unsettled]
    have unnamed : (arguments.interpreter.getD interpreter).isEmpty = true ↔ arguments.interpreter = some "" := by
      cases arguments.interpreter with
      | none => simp [named]
      | some given => simp
    have tooShort :
        ((arguments.drainTimeout.map Seconds.real).getD Settings.standard.drainTimeout).isAtMostZero = true ↔
          ∃ timeout, arguments.drainTimeout = some timeout ∧ timeout.isAtMostZero = true := by
      cases arguments.drainTimeout with
      | none => exact iff_of_false (by decide) nofun
      | some timeout => simp [Seconds.isAtMostZero]
    rw [unnamed, tooShort]

/-! ## The calls of the program -/

/-- The words are no command line. -/
def Misused (words : List String) : Prop := ∃ error, read words = .error (.error error)

/-- The words ask for a text: the help or the version. -/
def Informed (words : List String) : Prop := read words = .error .help ∨ read words = .error .version

/-- The bytes of the file at a place. -/
def Surroundings.bytesAt (surroundings : Surroundings) (place : Place) : List UInt8 :=
  ((surroundings.contents.find? (·.1 == place)).map (·.2)).getD []

/-- The words are a command line that cannot be followed. -/
inductive Unusable (surroundings : Surroundings) (words : List String) : Prop where
  /-- No file stands at the path. -/
  | noFile {path : List Char} {arguments : Arguments} (given : read words = .ok (path, arguments))
      (absent : ∀ place, surroundings.tree.filePlace? (.ofText path) ≠ .ok (some place))
  /-- The settings cannot be used. -/
  | noSettings {path : List Char} {arguments : Arguments} (given : read words = .ok (path, arguments))
      (unsettled : arguments.Unsettled)
  /-- The file is no text. -/
  | noText {path : List Char} {arguments : Arguments} {place : Place} {error : Utf8Error}
      (given : read words = .ok (path, arguments))
      (found : surroundings.tree.filePlace? (.ofText path) = .ok (some place))
      (undecodable : decodeUtf8 (surroundings.bytesAt place) = .error error)

/-- The evaluation of a document. -/
structure Request where
  /-- The path of the document. -/
  path : List Char
  /-- What the command line asks for. -/
  arguments : Arguments
  /-- The settings of the session. -/
  settings : Settings
  /-- The document. -/
  source : List Char

/-- The words ask for the evaluation of a document. -/
structure Request.AskedBy (request : Request) (surroundings : Surroundings) (words : List String) : Prop where
  /-- They give the path and the arguments. -/
  given : read words = .ok (request.path, request.arguments)
  /-- The file at the path holds the document. -/
  document : ∃ place text, surroundings.tree.filePlace? (.ofText request.path) = .ok (some place) ∧
    decodeUtf8 (surroundings.bytesAt place) = .ok text ∧ request.source = normalizeBreaks text
  /-- The settings are those of the environment and the arguments. -/
  settled : settingsFrom surroundings request.arguments = .ok request.settings

/-- Every module that the document names can be looked up. -/
def Request.IsPrepared (request : Request) (surroundings : Surroundings) : Prop :=
  ∃ prepared, Preparation.document
    (surroundings.setting request.arguments request.settings (.ofText request.path)) request.source = .ok prepared

section Calls

variable {surroundings : Surroundings} {words : List String} {request : Request}

/-- Words that are no command line are refused. -/
theorem status_run_of_misused (misused : Misused words) : (run surroundings words).status = 2 := by
  obtain ⟨error, refused⟩ := misused
  rw [run, refused]
  rfl

/-- Words that ask for a text get it. -/
theorem status_run_of_informed (informed : Informed words) : (run surroundings words).status = 0 := by
  rcases informed with help | version
  · rw [run, help]
    rfl
  · rw [run, version]
    rfl

/-- A command line that is in order is followed. -/
theorem run_of_read {path : List Char} {arguments : Arguments} (given : read words = .ok (path, arguments)) :
    run surroundings words = perform surroundings (.ofText path) arguments := by
  rw [run, given]

/-- A command line that cannot be followed ends with the status for it. -/
theorem status_run_of_unusable (useless : Unusable surroundings words) : (run surroundings words).status = 1 := by
  cases useless with
  | @noFile path arguments given absent =>
    rw [run_of_read given, perform]
    rcases found : surroundings.tree.filePlace? (.ofText path) with error | (_ | place)
    · rfl
    · rfl
    · exact absurd found (absent place)
  | @noSettings path arguments given unsettled =>
    obtain ⟨error, refused⟩ := (settingsFrom_eq_error_iff surroundings arguments).mpr unsettled
    rw [run_of_read given, perform, refused]
    -- Whether a file stands at the path makes no difference for the status.
    rcases surroundings.tree.filePlace? (.ofText path) with error | (_ | place)
    · rfl
    · rfl
    · rfl
  | @noText path arguments place error given found undecodable =>
    rw [Surroundings.bytesAt] at undecodable
    rw [run_of_read given, perform, found]
    simp only [undecodable]
    cases settingsFrom surroundings arguments with
    | error error => rfl
    | ok settings => rfl

/-- A document is evaluated if that is asked for. -/
theorem Request.AskedBy.run_eq (asked : request.AskedBy surroundings words) :
    run surroundings words =
      evaluate surroundings request.arguments request.settings (.ofText request.path) request.source := by
  obtain ⟨place, text, found, decoded, document⟩ := asked.document
  rw [Surroundings.bytesAt] at decoded
  rw [run_of_read asked.given, perform, found]
  simp only [asked.settled, decoded, document]

/-- **What a call comes to**: a wrong command line, a text, a command line that cannot be followed, or the
evaluation of a document. -/
theorem run_cases (surroundings : Surroundings) (words : List String) :
    Misused words ∨ Informed words ∨ Unusable surroundings words ∨
      ∃ request : Request, request.AskedBy surroundings words := by
  rcases given : read words with (_ | _ | error) | ⟨path, arguments⟩
  · exact .inr (.inl (.inl given))
  · exact .inr (.inl (.inr given))
  · exact .inl ⟨error, given⟩
  · refine .inr (.inr ?_)
    by_cases absent : ∀ place, surroundings.tree.filePlace? (.ofText path) ≠ .ok (some place)
    · exact .inl (.noFile given absent)
    · obtain ⟨place, found⟩ := not_forall_not.mp absent
      cases settled : settingsFrom surroundings arguments with
      | error error =>
        exact .inl (.noSettings given ((settingsFrom_eq_error_iff surroundings arguments).mp ⟨error, settled⟩))
      | ok settings =>
        cases decoded : decodeUtf8 (surroundings.bytesAt place) with
        | error error => exact .inl (.noText given found decoded)
        | ok text =>
          let request : Request := ⟨path, arguments, settings, normalizeBreaks text⟩
          exact .inr ⟨request, given, ⟨place, text, found, decoded, rfl⟩, settled⟩

/-- A command line that cannot be followed is one. -/
theorem Unusable.given (useless : Unusable surroundings words) :
    ∃ path arguments, read words = .ok (path, arguments) := by
  cases useless with
  | noFile given => exact ⟨_, _, given⟩
  | noSettings given => exact ⟨_, _, given⟩
  | noText given => exact ⟨_, _, given⟩

/-- A command line is neither wrong nor does it ask for a text only. -/
theorem not_misused_of_read {path : List Char} {arguments : Arguments} (given : read words = .ok (path, arguments)) :
    ¬ Misused words ∧ ¬ Informed words := by
  constructor
  · rintro ⟨error, refused⟩
    cases given.symm.trans refused
  · rintro (help | version)
    · cases given.symm.trans help
    · cases given.symm.trans version

/-- Words that ask for a text are not wrong. -/
theorem Informed.not_misused (informed : Informed words) : ¬ Misused words := by
  rintro ⟨error, refused⟩
  rcases informed with help | version
  · cases help.symm.trans refused
  · cases version.symm.trans refused

/-- A call asks for the evaluation of one document at most. -/
theorem Request.AskedBy.unique {other : Request} (asked : request.AskedBy surroundings words)
    (again : other.AskedBy surroundings words) : other = request := by
  obtain ⟨path, arguments, settings, source⟩ := request
  obtain ⟨otherPath, otherArguments, otherSettings, otherSource⟩ := other
  obtain ⟨given, ⟨place, text, found, decoded, rfl⟩, settled⟩ := asked
  obtain ⟨otherGiven, ⟨otherPlace, otherText, otherFound, otherDecoded, rfl⟩, otherSettled⟩ := again
  dsimp only at *
  obtain ⟨rfl, rfl⟩ := Prod.mk.inj (Except.ok.inj (given.symm.trans otherGiven))
  obtain rfl := Option.some.inj (Except.ok.inj (found.symm.trans otherFound))
  obtain rfl := Except.ok.inj (decoded.symm.trans otherDecoded)
  obtain rfl := Except.ok.inj (settled.symm.trans otherSettled)
  rfl

/-- A command line that asks for an evaluation can be followed. -/
theorem Request.AskedBy.not_unusable (asked : request.AskedBy surroundings words) :
    ¬ Unusable surroundings words := by
  obtain ⟨given, ⟨place, text, found, decoded, -⟩, settled⟩ := asked
  intro useless
  cases useless with
  | noFile again absent =>
    obtain ⟨rfl, rfl⟩ := Prod.mk.inj (Except.ok.inj (given.symm.trans again))
    exact absent place found
  | noSettings again unsettled =>
    obtain ⟨rfl, rfl⟩ := Prod.mk.inj (Except.ok.inj (given.symm.trans again))
    obtain ⟨error, refused⟩ := (settingsFrom_eq_error_iff surroundings _).mpr unsettled
    cases settled.symm.trans refused
  | noText again foundAgain undecodable =>
    obtain ⟨rfl, rfl⟩ := Prod.mk.inj (Except.ok.inj (given.symm.trans again))
    obtain rfl := Option.some.inj (Except.ok.inj (found.symm.trans foundAgain))
    cases decoded.symm.trans undecodable

/-- Where an evaluation is asked for, what holds of any such evaluation holds of that one. -/
theorem Request.AskedBy.exists_iff (asked : request.AskedBy surroundings words) (holds : Request → Prop) :
    (∃ other : Request, other.AskedBy surroundings words ∧ holds other) ↔ holds request := by
  constructor
  · rintro ⟨other, again, held⟩
    exact asked.unique again ▸ held
  · intro held
    exact ⟨request, asked, held⟩

end Calls

/-! ## The statuses -/

/-- The same surroundings with a child for the host. -/
def Surroundings.hosting (surroundings : Surroundings) (conduct : Conduct) (settings : Settings)
    (directory : Option Path) : Surroundings :=
  { surroundings with host := conduct.script settings directory }

/-- What breaks an evaluation off whose process does not fail early. -/
inductive Request.BreaksOff (request : Request) (surroundings : Surroundings) (conduct : Conduct) : Prop where
  /-- A numeral of the document is too long, so that feeding breaks off. -/
  | feeding {code : List Char} {logs : List Log.Record}
      (prepared : Preparation.document
        (surroundings.setting request.arguments request.settings (.ofText request.path)) request.source =
          .ok (code, logs))
      (breaks : (Pipe.fresh none conduct.capacity).BreaksOff code 1)
  /-- Nothing that is noticed says that nothing more is to come, and the time to wait for that is beyond the clock. -/
  | waiting (silent : ¬ conduct.SaysDrained) (long : request.settings.drainTimeout.exceedsClock = true)
  /-- The results cannot be printed. -/
  | printing (fault : surroundings.outputFault.isSome = true)

section Hosting

variable {surroundings : Surroundings} {conduct : Conduct} {settings : Settings} {directory : Option Path}
  {words : List String} {request : Request} {script : HostScript}

/-- The end of a host comes before the document is fed exactly if that of the child does. -/
theorem endsUnfed_iff_of_shows (shows : conduct.Shows script) (starts : ¬ conduct.FailsToStart) :
    script.endsUnfed = true ↔
      ∃ stage noted, conduct.EndNoticed stage noted ∧ stage ≠ .fed ∧ noted ≠ .drained := by
  rw [HostScript.endsUnfed_iff]
  constructor
  · rintro ⟨ending, ends, early, more⟩
    exact ⟨ending.stage, ending.noted, (shows.ending starts _ _).mpr ⟨ending, ends, rfl, rfl⟩, early, more⟩
  · rintro ⟨stage, noted, noticed, early, more⟩
    obtain ⟨ending, ends, rfl, rfl⟩ := (shows.ending starts _ _).mp noticed
    exact ⟨ending, ends, early, more⟩

/-- A host says that there is nothing more to report exactly if what is noticed of the child does. -/
theorem drains_iff_of_shows (shows : conduct.Shows script) (starts : ¬ conduct.FailsToStart) :
    script.drains = true ↔ conduct.SaysDrained := by
  rw [HostScript.drains, Bool.or_eq_true, shows.messages starts, List.any_eq_true, Option.isSome_iff_exists,
    Conduct.SaysDrained]
  simp only [Message.isDrained, decide_eq_true_eq]
  refine or_congr_right ⟨?_, ?_⟩
  · rintro ⟨ending, ends⟩
    exact ⟨_, _, (shows.ending starts _ _).mpr ⟨ending, ends, rfl, rfl⟩⟩
  · rintro ⟨stage, noted, noticed⟩
    obtain ⟨ending, ends, -⟩ := (shows.ending starts _ _).mp noticed
    exact ⟨ending, ends⟩

/-- The failure of a host is on record exactly if that of the child is noticed. -/
theorem failureNoted_iff_of_shows (shows : conduct.Shows script) (starts : ¬ conduct.FailsToStart) :
    script.failureNoted = true ↔ conduct.EndNoticed .fed .failed := by
  rw [HostScript.failureNoted, shows.ending starts, Option.any_eq_true]
  simp only [decide_eq_true_eq]

open Classical in
/-- **How the evaluation of a document ends**, by what the child does and what of it is noticed. -/
theorem Request.AskedBy.status_eq
    (asked : request.AskedBy (surroundings.hosting conduct settings directory) words) :
    (run (surroundings.hosting conduct settings directory) words).status =
      if ¬ request.IsPrepared (surroundings.hosting conduct settings directory) then 1
      else if conduct.FailsEarly then 2
      else if request.BreaksOff (surroundings.hosting conduct settings directory) conduct then 1
      else if conduct.EndNoticed .fed .failed then 2 else 0 := by
  have shows : conduct.Shows (surroundings.hosting conduct settings directory).host :=
    conduct.shows_script settings directory
  rw [asked.run_eq, status_evaluate shows.guarded, IsPrepared]
  rcases prepared : Preparation.document _ request.source with error | ⟨code, logs⟩
  · have unprepared :
        ¬ ∃ prepared, (.error error : Except LookupError (List Char × List Log.Record)) = .ok prepared := nofun
    rw [if_pos unprepared]
  · have fine : ¬¬ ∃ again, (.ok (code, logs) : Except LookupError (List Char × List Log.Record)) = .ok again :=
      not_not.mpr ⟨_, rfl⟩
    rw [if_neg fine]
    dsimp only
    have early : ((surroundings.hosting conduct settings directory).host.startFault.isSome ||
        (surroundings.hosting conduct settings directory).host.endsUnfed) = true ↔ conduct.FailsEarly := by
      rw [Bool.or_eq_true, shows.startFault, Conduct.FailsEarly]
      by_cases fails : conduct.FailsToStart
      · exact iff_of_true (.inl fails) (.inl fails)
      · rw [endsUnfed_iff_of_shows shows fails]
    by_cases fails : conduct.FailsEarly
    · rw [if_pos (early.mpr fails), if_pos fails]
    · rw [if_neg (mt early.mp fails), if_neg fails]
      have starts : ¬ conduct.FailsToStart := fun failing => fails (.inl failing)
      have breaks : request.BreaksOff (surroundings.hosting conduct settings directory) conduct ↔
          (Pipe.fresh none conduct.capacity).BreaksOff code 1 ∨
            (!(surroundings.hosting conduct settings directory).host.drains &&
              request.settings.drainTimeout.exceedsClock) = true ∨
            (surroundings.hosting conduct settings directory).outputFault.isSome = true := by
        rw [Bool.and_eq_true, Bool.not_eq_true', ← Bool.not_eq_true, drains_iff_of_shows shows starts]
        constructor
        · rintro (⟨again, breaks⟩ | ⟨silent, long⟩ | fault)
          · cases prepared.symm.trans again
            exact .inl breaks
          · exact .inr (.inl ⟨silent, long⟩)
          · exact .inr (.inr fault)
        · rintro (breaks | ⟨silent, long⟩ | fault)
          · exact .feeding prepared breaks
          · exact .waiting silent long
          · exact .printing fault
      rw [shows.capacity]
      simp only [breaks, failureNoted_iff_of_shows shows starts]
      split_ifs <;> simp_all

end Hosting

/-- What a status says of a call whose host is a child. -/
structure Tells (surroundings : Surroundings) (words : List String) (conduct : Conduct) (status : Nat) : Prop where
  /-- Two: the words are no command line, or the process of the host failed before the document was fed, or its
  failure is noticed and nothing breaks the evaluation off. -/
  two : status = 2 ↔ Misused words ∨ ∃ request : Request, request.AskedBy surroundings words ∧
    request.IsPrepared surroundings ∧ (conduct.FailsEarly ∨
      ¬ request.BreaksOff surroundings conduct ∧ conduct.EndNoticed .fed .failed)
  /-- One: the command line cannot be followed, a module of the document cannot be looked up, or something breaks
  the evaluation off. -/
  one : status = 1 ↔ Unusable surroundings words ∨ ∃ request : Request, request.AskedBy surroundings words ∧
    (¬ request.IsPrepared surroundings ∨ ¬ conduct.FailsEarly ∧ request.BreaksOff surroundings conduct)
  /-- Zero: anything else. -/
  zero : status = 0 ↔ Informed words ∨ ∃ request : Request, request.AskedBy surroundings words ∧
    request.IsPrepared surroundings ∧ ¬ conduct.FailsEarly ∧ ¬ request.BreaksOff surroundings conduct ∧
      ¬ conduct.EndNoticed .fed .failed

section Tells

variable {surroundings : Surroundings} {words : List String} {conduct : Conduct} {settings : Settings}
  {directory : Option Path}

/-- The status of words that are no command line is two. -/
theorem Misused.tells (misused : Misused words) : Tells surroundings words conduct 2 := by
  have unread {path : List Char} {arguments : Arguments} (given : read words = .ok (path, arguments)) : False :=
    (not_misused_of_read given).1 misused
  constructor
  · exact iff_of_true rfl (.inl misused)
  · refine iff_of_false (by decide) ?_
    rintro (useless | ⟨request, asked, -⟩)
    · obtain ⟨path, arguments, given⟩ := useless.given
      exact unread given
    · exact unread asked.given
  · refine iff_of_false (by decide) ?_
    rintro (informed | ⟨request, asked, -⟩)
    · exact informed.not_misused misused
    · exact unread asked.given

/-- The status of words that ask for a text is zero. -/
theorem Informed.tells (informed : Informed words) : Tells surroundings words conduct 0 := by
  have unread {path : List Char} {arguments : Arguments} (given : read words = .ok (path, arguments)) : False :=
    (not_misused_of_read given).2 informed
  constructor
  · refine iff_of_false (by decide) ?_
    rintro (misused | ⟨request, asked, -⟩)
    · exact informed.not_misused misused
    · exact unread asked.given
  · refine iff_of_false (by decide) ?_
    rintro (useless | ⟨request, asked, -⟩)
    · obtain ⟨path, arguments, given⟩ := useless.given
      exact unread given
    · exact unread asked.given
  · exact iff_of_true rfl (.inl informed)

/-- The status of a command line that cannot be followed is one. -/
theorem Unusable.tells (useless : Unusable surroundings words) : Tells surroundings words conduct 1 := by
  obtain ⟨path, arguments, given⟩ := useless.given
  obtain ⟨right, textless⟩ := not_misused_of_read given
  constructor
  · refine iff_of_false (by decide) ?_
    rintro (misused | ⟨request, asked, -⟩)
    · exact right misused
    · exact asked.not_unusable useless
  · exact iff_of_true rfl (.inl useless)
  · refine iff_of_false (by decide) ?_
    rintro (informed | ⟨request, asked, -⟩)
    · exact textless informed
    · exact asked.not_unusable useless

/-- The status of an evaluation is that of its host, if the document can be prepared and nothing breaks the
evaluation off. -/
theorem Request.AskedBy.tells {request : Request}
    (asked : request.AskedBy (surroundings.hosting conduct settings directory) words) :
    Tells (surroundings.hosting conduct settings directory) words conduct
      (run (surroundings.hosting conduct settings directory) words).status := by
  obtain ⟨right, textless⟩ := not_misused_of_read asked.given
  constructor
  · rw [or_iff_right right, asked.exists_iff, asked.status_eq]
    split_ifs <;> simp [*]
  · rw [or_iff_right asked.not_unusable, asked.exists_iff, asked.status_eq]
    split_ifs <;> simp_all
  · rw [or_iff_right textless, asked.exists_iff, asked.status_eq]
    split_ifs <;> simp_all

end Tells

end Marginalia.CommandLine

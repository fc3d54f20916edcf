import Mathlib.Data.List.Induction
import Marginalia.Proofs.Child.Reading

/-! # The life of a child
No child is left behind: a child that did not get ready is ended before its start fails, and a child that was
ended lives no more. A child is killed only where it lives on after it was asked to exit, and its end is reported
once, as one that was asked for exactly if the child was ended before the report. All this holds after every
history of lines, commands, faults and ends in any order (`child_never_left_behind`). -/

namespace Marginalia

open Text

/-- Whether the error is one with which a start fails. -/
def ChildError.isStartFault : ChildError → Bool
  | .cannotSpawn _ _ _ | .notReady _ _ => true
  | .notSpawned | .notWritten _ _ | .nameTaken _ | .numeral _ => false

/-- Whether a line says that the child is ready. -/
def saysReady (line : List Char) : Bool := (messageOf? line).any (·.isReady)

namespace ChildReport

/-- Several reports as one. -/
def joined (reports : List ChildReport) : ChildReport := reports.foldr append none

@[simp] theorem joined_nil : joined [] = none := rfl

theorem joined_cons (report : ChildReport) (reports : List ChildReport) :
    joined (report :: reports) = report ++ joined reports := rfl

theorem append_none (report : ChildReport) : report ++ none = report := by
  change append report none = report
  simp [append, none]

theorem none_append (report : ChildReport) : none ++ report = report := rfl

theorem append_assoc (first second third : ChildReport) : first ++ second ++ third = first ++ (second ++ third) := by
  change append (append first second) third = append first (append second third)
  simp [append]

theorem joined_append (first second : List ChildReport) :
    joined (first ++ second) = joined first ++ joined second := by
  induction first with
  | nil => rfl
  | cons report first ih => rw [List.cons_append, joined_cons, joined_cons, ih, append_assoc]

end ChildReport

namespace Child

/-! ## Starting -/

/-- The lines that are there from the start, as steps. -/
def firstLines (behaviour : ChildBehaviour) (fails : Message → Bool) : List ChildStep :=
  behaviour.trouble.map .trouble ++ behaviour.output.map (.line fails)

/-- What befalls a child before it is waited for: its first lines, and its end, if it ends right after them. -/
def bootSteps (behaviour : ChildBehaviour) (fails : Message → Bool) : List ChildStep :=
  firstLines behaviour fails ++ behaviour.bootExit.toList.flatMap fun code => [.die code, .notice]

/-- All steps of a start: a child that does not say that it is ready is ended. -/
def startSteps (behaviour : ChildBehaviour) (fails : Message → Bool) : List ChildStep :=
  bootSteps behaviour fails ++ if behaviour.output.any saysReady then [] else [.terminate]

/-- Lines that are taken one by one are steps. -/
theorem readEach_eq {read : Child → List Char → Child × ChildReport} (arrives : List Char → ChildStep)
    (same : ∀ child line, child.step (arrives line) = read child line) (child : Child) (lines : List (List Char)) :
    readEach read child lines =
      ((child.steps (lines.map arrives)).1, .joined (child.steps (lines.map arrives)).2) := by
  induction lines generalizing child with
  | nil => rfl
  | cons line lines ih =>
    rw [List.map_cons, steps_cons, same, ChildReport.joined_cons]
    simp only [readEach, ih]

/-- Lines change nothing of the spawned part of a child. -/
theorem spawned_steps_of_arrivals {child : Child} {history : List ChildStep}
    (arrivals : ∀ step ∈ history, ∀ child : Child, (child.step step).1.spawned = child.spawned) :
    (child.steps history).1.spawned = child.spawned := by
  induction history generalizing child with
  | nil => rfl
  | cons step history ih =>
    obtain ⟨first, others⟩ := List.forall_mem_cons.mp arrivals
    rw [steps_cons, ih others, first]

theorem spawned_step_line (child : Child) (fails : Message → Bool) {text : List Char} (readable : Readable text) :
    (child.step (.line fails text)).1.spawned = child.spawned := by
  obtain ⟨logs, same⟩ := readLine_eq child fails readable
  rw [Child.step, same]
  split <;> rfl

theorem spawned_step_trouble (child : Child) (text : List Char) :
    (child.step (.trouble text)).1.spawned = child.spawned := by
  obtain ⟨logs, same⟩ := readTrouble_eq child text
  rw [Child.step, same]
  rfl

/-- A spawned child keeps its settings and its behaviour. -/
theorem keeps_steps {child : Child} {history : List ChildStep} (there : child.spawned.isSome = true)
    (readable : ∀ step ∈ history, step.IsReadable) :
    (child.steps history).1.settings = child.settings ∧ (child.steps history).1.behaviour = child.behaviour := by
  induction history generalizing child with
  | nil => exact ⟨rfl, rfl⟩
  | cons step history ih =>
    obtain ⟨first, others⟩ := List.forall_mem_cons.mp readable
    have lives := lives there first
    obtain ⟨settings, behaviour⟩ := ih lives.spawned others
    exact ⟨settings.trans lives.settings, behaviour.trans lives.behaviour⟩

/-- Steps without messages do not make a child ready. -/
theorem ready_steps_of_silent {child : Child} {history : List ChildStep} (there : child.spawned.isSome = true)
    (readable : ∀ step ∈ history, step.IsReadable) (silent : ∀ step ∈ history, step.message? = none) :
    (child.steps history).1.ready = child.ready := by
  induction history generalizing child with
  | nil => rfl
  | cons step history ih =>
    obtain ⟨first, others⟩ := List.forall_mem_cons.mp readable
    obtain ⟨nothing, later⟩ := List.forall_mem_cons.mp silent
    have heard : child.heard step = none := by rw [Child.heard, nothing, ite_self]
    rw [steps_cons, ih (lives there first).spawned others later, (hears there first).ready, heard, note_none]

/-- Lines that are read make a child ready if one of them says so. -/
theorem ready_steps_lines {child : Child} (there : child.spawned.isSome = true) (reading : child.reads = true)
    (fails : Message → Bool) {lines : List (List Char)} (readable : ∀ line ∈ lines, Readable line) :
    (child.steps (lines.map (.line fails))).1.ready = (child.ready || lines.any saysReady) := by
  induction lines generalizing child with
  | nil => exact (Bool.or_false _).symm
  | cons line lines ih =>
    obtain ⟨first, others⟩ := List.forall_mem_cons.mp readable
    have goes := (reads_step_of_line child fails first).trans reading
    have step : (ChildStep.line fails line).IsReadable := first
    have heard : child.heard (.line fails line) = messageOf? line := if_pos reading
    rw [List.map_cons, steps_cons, ih (lives there step).spawned goes others, (hears there step).ready, heard,
      List.any_cons, ← Bool.or_assoc]
    rfl

section Start

variable {child : Child} (fails : Message → Bool) (readable : ∀ line ∈ child.behaviour.output, Readable line)

include readable in
/-- The first lines are all read to their ends. -/
theorem isReadable_firstLines : ∀ step ∈ firstLines child.behaviour fails, step.IsReadable := by
  intro step member
  rcases List.mem_append.mp member with trouble | line
  · obtain ⟨text, -, rfl⟩ := List.mem_map.mp trouble
    exact trivial
  · obtain ⟨text, known, rfl⟩ := List.mem_map.mp line
    exact readable text known

include readable in
/-- After its first lines, the child lives and its output is read. -/
theorem spawned_firstLines :
    (child.opened.steps (firstLines child.behaviour fails)).1.spawned = child.opened.spawned := by
  refine spawned_steps_of_arrivals fun step member child => ?_
  rcases List.mem_append.mp member with trouble | line
  · obtain ⟨text, -, rfl⟩ := List.mem_map.mp trouble
    exact spawned_step_trouble child text
  · obtain ⟨text, known, rfl⟩ := List.mem_map.mp line
    exact spawned_step_line child fails (readable text known)

include readable in
/-- After its first lines, a child is ready if one of them says so. -/
theorem ready_firstLines (fresh : child.ready = false) :
    (child.opened.steps (firstLines child.behaviour fails)).1.ready = child.behaviour.output.any saysReady := by
  have troubles : ∀ step ∈ child.behaviour.trouble.map ChildStep.trouble,
      ∀ child : Child, (child.step step).1.spawned = child.spawned := by
    intro step member child
    obtain ⟨text, -, rfl⟩ := List.mem_map.mp member
    exact spawned_step_trouble child text
  have silent : ∀ step ∈ child.behaviour.trouble.map ChildStep.trouble,
      step.IsReadable ∧ step.message? = none := by
    intro step member
    obtain ⟨text, -, rfl⟩ := List.mem_map.mp member
    exact ⟨trivial, rfl⟩
  have same : (child.opened.steps (child.behaviour.trouble.map .trouble)).1.spawned = child.opened.spawned :=
    spawned_steps_of_arrivals troubles
  have unready : (child.opened.steps (child.behaviour.trouble.map .trouble)).1.ready = false :=
    (ready_steps_of_silent rfl (fun step member => (silent step member).1)
      fun step member => (silent step member).2).trans fresh
  rw [firstLines, steps_append, ready_steps_lines (by rw [same]; rfl) (by rw [reads, same]; rfl) fails readable,
    unready, Bool.false_or]

include readable in
/-- Spawning a child and taking what is there from the start are its first steps. -/
theorem boot_eq :
    child.boot fails = ((child.opened.steps (bootSteps child.behaviour fails)).1,
      .joined (child.opened.steps (bootSteps child.behaviour fails)).2) := by
  let told := child.opened.steps (child.behaviour.trouble.map .trouble)
  let heard := told.1.steps (child.behaviour.output.map (.line fails))
  have whole : child.opened.steps (firstLines child.behaviour fails) = (heard.1, told.2 ++ heard.2) :=
    steps_append ..
  have readableFirst := isReadable_firstLines fails readable
  have there : child.opened.spawned.isSome = true := rfl
  have toldBehaves : told.1.behaviour = child.behaviour :=
    (keeps_steps rfl fun step member => readableFirst step (List.mem_append_left _ member)).2
  have heardBehaves : heard.1.behaviour = child.behaviour := by
    have same := (keeps_steps there readableFirst).2
    rwa [whole] at same
  have troubles : child.opened.readTroubles child.behaviour.trouble = (told.1, .joined told.2) :=
    readEach_eq .trouble (fun _ _ => rfl) ..
  have lines : told.1.readLines fails told.1.behaviour.output = (heard.1, .joined heard.2) := by
    rw [toldBehaves]
    exact readEach_eq (.line fails) (fun _ _ => rfl) ..
  rw [opened] at troubles
  rw [boot, bootSteps, steps_append, whole]
  simp only [troubles, lines, heardBehaves]
  cases child.behaviour.bootExit with
  | none =>
    rw [Option.toList_none, List.flatMap_nil, steps_nil, List.append_nil, ChildReport.joined_append,
      ChildReport.append_none]
  | some code =>
    -- The child lives after its first lines, so it ends and its end is noticed.
    have alive : heard.1.isAlive = true := by
      have same := spawned_firstLines fails readable
      rw [whole] at same
      rw [isAlive, same]
      rfl
    have ends : heard.1.ended code = (heard.1.die code).notice := ended_eq alive code
    simp only [ends]
    rw [Option.toList_some, List.flatMap_singleton, steps_cons, steps_cons, steps_nil, ChildReport.joined_append,
      ChildReport.joined_append, ChildReport.joined_cons, ChildReport.joined_cons, ChildReport.joined_nil,
      ChildReport.append_none]
    rfl

include readable in
theorem isReadable_bootSteps : ∀ step ∈ bootSteps child.behaviour fails, step.IsReadable := by
  intro step member
  rcases List.mem_append.mp member with first | last
  · exact isReadable_firstLines fails readable step first
  · obtain ⟨code, -, inside⟩ := List.mem_flatMap.mp last
    rcases List.mem_pair.mp inside with rfl | rfl <;> exact trivial

include readable in
/-- After what is there from the start, a child is ready if one of its first lines says so. -/
theorem ready_bootSteps (fresh : child.ready = false) :
    (child.opened.steps (bootSteps child.behaviour fails)).1.ready = child.behaviour.output.any saysReady := by
  have spawned : child.opened.spawned.isSome = true := rfl
  have there := isSome_spawned_steps spawned (isReadable_firstLines fails readable)
  have readableBoot := isReadable_bootSteps fails readable
  rw [bootSteps, steps_append, ready_steps_of_silent there
    (fun step member => readableBoot step (List.mem_append_right _ member)) ?_, ready_firstLines fails readable fresh]
  intro step member
  obtain ⟨code, -, inside⟩ := List.mem_flatMap.mp member
  rcases List.mem_pair.mp inside with rfl | rfl <;> rfl

include readable in
/-- A start that spawns its child takes the steps of the start, and fails exactly if no line says that the child
is ready. -/
theorem start_eq (fresh : child.ready = false) (spawns : child.behaviour.spawnFault = none) :
    child.start fails =
      ((child.opened.steps (startSteps child.behaviour fails)).1,
        .joined (child.opened.steps (startSteps child.behaviour fails)).2,
        if child.behaviour.output.any saysReady then .ok ()
        else .error (.notReady child.settings.startupTimeout
          (child.opened.steps (bootSteps child.behaviour fails)).1.troubleText)) := by
  have ready := ready_bootSteps fails readable fresh
  have there : child.opened.spawned.isSome = true := rfl
  have settings := (keeps_steps there (isReadable_bootSteps fails readable)).1
  rw [start, spawns]
  simp only [startSteps, boot_eq fails readable, ready]
  cases child.behaviour.output.any saysReady with
  | true => simp only [if_true, List.append_nil]
  | false =>
    simp only [Bool.false_eq_true, if_false, steps_concat, settings, ChildReport.joined_append,
      ChildReport.joined_cons, ChildReport.joined_nil, ChildReport.append_none]
    rfl

end Start

/-! ## A child that was never spawned -/

/-- Nothing befalls a child that was never spawned. -/
theorem steps_of_unspawned {child : Child} (absent : child.spawned = none) (history : List ChildStep) :
    (child.steps history).1.spawned = none ∧
      ∀ report ∈ (child.steps history).2, report.calls = [] ∧ report.written = [] := by
  have one (child : Child) (absent : child.spawned = none) (step : ChildStep) :
      (child.step step).1.spawned = none ∧ (child.step step).2.calls = [] ∧ (child.step step).2.written = [] := by
    cases step with
    | line fails text => simp [Child.step, readLine, absent, ChildReport.none, ChildReport.calls]
    | trouble text =>
      obtain ⟨logs, same⟩ := readTrouble_eq child text
      rw [Child.step, same]
      exact ⟨absent, rfl, rfl⟩
    | send command =>
      rw [Child.step, send, absent]
      cases command.takenName? <;> exact ⟨absent, rfl, rfl⟩
    | breakInput => simp [Child.step, Child.breakInput, change, absent, ChildReport.none, ChildReport.calls]
    | die code => simp [Child.step, die, change, absent, ChildReport.none, ChildReport.calls]
    | notice => simp [Child.step, notice, exitCode?, absent, ChildReport.none, ChildReport.calls]
    | terminate => simp [Child.step, terminate, absent, ChildReport.none, ChildReport.calls]
  induction history generalizing child with
  | nil => exact ⟨absent, List.forall_mem_nil _⟩
  | cons step history ih =>
    obtain ⟨still, silent⟩ := one child absent step
    obtain ⟨last, quiet⟩ := ih still
    exact ⟨last, List.forall_mem_cons.mpr ⟨silent, quiet⟩⟩

/-! ## A child that was spawned -/

/-- A spawned child that does not live has its code. -/
theorem isAlive_eq_false_iff {child : Child} (there : child.spawned.isSome = true) :
    child.isAlive = false ↔ ∃ code, child.exitCode? = some code := by
  obtain ⟨spawned, known⟩ := Option.isSome_iff_exists.mp there
  rw [isAlive, exitCode?, known, Option.any_some, Option.bind_some, ← Option.isSome_iff_exists]
  cases spawned.exitCode <;> simp

/-- A child that was ended already is ended again without any effect. -/
theorem terminate_of_gone {child : Child} (there : child.spawned.isSome = true) (gone : child.isAlive = false)
    (requested : child.exitRequested = true) (closed : child.input? = some .closed) :
    child.terminate = (child, .none) := by
  obtain ⟨spawned, known⟩ := Option.isSome_iff_exists.mp there
  obtain ⟨code, ended⟩ := (isAlive_eq_false_iff there).mp gone
  have shut : spawned.input = .closed := by simpa [input?, known] using closed
  have same : { spawned with input := .closed } = spawned := by rw [← shut]
  rw [terminate_of_ended known (by simpa [exitCode?, known] using ended), same, ← known, ← requested]

/-- Once a child does not live, the reader comes to the end of its output. -/
theorem reads_notice {child : Child} (there : child.spawned.isSome = true) (gone : child.isAlive = false) :
    child.notice.1.reads = false := by
  obtain ⟨spawned, known⟩ := Option.isSome_iff_exists.mp there
  obtain ⟨code, ended⟩ := (isAlive_eq_false_iff there).mp gone
  rw [notice, ended]
  cases reading : child.reads with
  | true => simp [reads, change, known]
  | false => exact reading

/-- The report of the end, and the place of the step in a history at which it was made. -/
def ReportsOnce (child : Child) (history : List ChildStep) : Prop :=
  let last := (child.steps history).1
  let exits := (child.steps history).2.flatMap (·.exits)
  if last.reads then exits = []
  else ∃ before step after code, history = before ++ step :: after ∧
    (child.steps before).1.reads = true ∧ (child.steps (before ++ [step])).1.reads = false ∧
      last.exitCode? = some code ∧ exits = [(code, (before ++ [step]).any (·.isTerminate))]

/-- A place in a history at which the child was ended and lived on after it was asked. -/
def KilledAt (child : Child) (history before after : List ChildStep) : Prop :=
  history = before ++ .terminate :: after ∧ (child.steps before).1.asked.isAlive = true

/-- What a history makes of the life of a child. -/
structure Course (child : Child) (history : List ChildStep) : Prop where
  spawned : (child.steps history).1.spawned.isSome = true
  requested : (child.steps history).1.exitRequested = history.any (·.isTerminate)
  gone : history.any (·.isTerminate) = true →
    (child.steps history).1.isAlive = false ∧ (child.steps history).1.input? = some .closed
  killed : (child.steps history).1.isKilled = true ↔ ∃ before after, child.KilledAt history before after
  reports : child.ReportsOnce history

/-- One step more: a child is killed where it was, or by this step. -/
theorem exists_killedAt_concat {child : Child} {history : List ChildStep} {step : ChildStep} :
    (∃ before after, child.KilledAt (history ++ [step]) before after) ↔
      (∃ before after, child.KilledAt history before after) ∨
        step.isTerminate = true ∧ (child.steps history).1.asked.isAlive = true := by
  constructor
  · rintro ⟨before, after, whole, lives⟩
    rcases List.eq_nil_or_concat after with rfl | ⟨others, last, rfl⟩
    · obtain ⟨rfl, same⟩ := List.append_inj' whole rfl
      exact .inr ⟨ChildStep.isTerminate_iff.mpr (List.cons.inj same).1, lives⟩
    · rw [List.concat_eq_append, ← List.cons_append, ← List.append_assoc] at whole
      exact .inl ⟨before, others, (List.append_inj' whole rfl).1, lives⟩
  · rintro (⟨before, after, rfl, lives⟩ | ⟨ends, lives⟩)
    · exact ⟨before, after ++ [step], by rw [List.append_assoc, List.cons_append], lives⟩
    · exact ⟨history, [], by rw [ChildStep.isTerminate_iff.mp ends], lives⟩

/-- One step more: the end was reported, or this step reports it, or it is still to come. -/
theorem ReportsOnce.concat {child : Child} {history : List ChildStep} {step : ChildStep}
    (earlier : child.ReportsOnce history)
    (lives : (child.steps history).1.Lives step (child.steps (history ++ [step])).1
      ((child.steps history).1.step step).2)
    (requested : (child.steps (history ++ [step])).1.exitRequested = (history ++ [step]).any (·.isTerminate)) :
    child.ReportsOnce (history ++ [step]) := by
  have exits : (child.steps (history ++ [step])).2.flatMap (·.exits) =
      (child.steps history).2.flatMap (·.exits) ++ ((child.steps history).1.step step).2.exits := by
    rw [steps_concat, List.flatMap_append, List.flatMap_singleton]
  rw [ReportsOnce] at earlier ⊢
  rw [exits]
  rcases lives.reported with ⟨same, silent⟩ | ⟨reading, ends, code, ended, told⟩
  · rw [same, silent, List.append_nil]
    split at earlier
    · next reading => rwa [if_pos reading]
    · next gone =>
      rw [if_neg gone]
      obtain ⟨before, first, after, code, rfl, reading, ends, ended, told⟩ := earlier
      exact ⟨before, first, after ++ [step], code, by rw [List.append_assoc, List.cons_append], reading, ends,
        lives.code code ended, told⟩
  · rw [if_pos reading] at earlier
    rw [ends, if_neg Bool.false_ne_true, earlier, List.nil_append, told, requested]
    exact ⟨history, step, [], code, rfl, reading, ends, ended, rfl⟩

/-- The course of a child that was spawned. -/
theorem course {child : Child} {history : List ChildStep} (readable : ∀ step ∈ history, step.IsReadable) :
    child.opened.exitRequested = false → child.opened.Course history := by
  intro fresh
  induction history using List.reverseRecOn with
  | nil =>
    refine ⟨rfl, fresh, nofun, ?_, rfl⟩
    constructor
    · intro killed
      cases killed
    · rintro ⟨before, after, whole, -⟩
      simp at whole
  | append_singleton history step ih =>
    obtain ⟨others, last⟩ := List.forall_mem_append.mp readable
    have earlier := ih others
    have lives := lives earlier.spawned (List.forall_mem_singleton.mp last)
    have next : (child.opened.steps (history ++ [step])).1 = ((child.opened.steps history).1.step step).1 := by
      rw [steps_concat]
    rw [← next] at lives
    have requested : (child.opened.steps (history ++ [step])).1.exitRequested =
        (history ++ [step]).any (·.isTerminate) := by
      rw [lives.asked, earlier.requested, List.any_append, List.any_cons, List.any_nil, Bool.or_false]
    refine ⟨lives.spawned, requested, ?_, ?_, earlier.reports.concat lives requested⟩
    · intro ended
      rw [List.any_append, List.any_cons, List.any_nil, Bool.or_false, Bool.or_eq_true] at ended
      rcases ended with before | now
      · obtain ⟨gone, closed⟩ := earlier.gone before
        obtain ⟨code, known⟩ := (isAlive_eq_false_iff earlier.spawned).mp gone
        exact ⟨(isAlive_eq_false_iff lives.spawned).mpr ⟨code, lives.code code known⟩, lives.closed closed⟩
      · exact lives.gone now
    · rw [lives.killed, Bool.or_eq_true, Bool.and_eq_true, earlier.killed, exists_killedAt_concat]

/-- How a child is looked after in a history. -/
structure Tended (child : Child) (history : List ChildStep) : Prop where
  /-- Once it was ended, it does not live, and ending it again changes and reports nothing. -/
  gone : .terminate ∈ history →
    (child.steps history).1.isAlive = false ∧ (child.steps history).1.terminate = ((child.steps history).1, .none)
  /-- It was killed exactly if it lived on after it was asked to exit. -/
  killed : (child.steps history).1.isKilled = true ↔ ∃ before after, child.KilledAt history before after
  /-- Its end was reported once, unless the reader has yet to come to it; as one that was asked for exactly if the
  child was ended up to the step of the report. -/
  reports : child.ReportsOnce history
  /-- Once it does not live, the reader comes to the end. -/
  ends : (child.steps history).1.isAlive = false → (child.steps history).1.notice.1.reads = false

/-- Every child that was spawned is looked after. -/
theorem tended {child : Child} (fresh : child.exitRequested = false) {history : List ChildStep}
    (readable : ∀ step ∈ history, step.IsReadable) : child.opened.Tended history := by
  have course := course readable fresh
  constructor
  case gone =>
    intro member
    have ended : history.any (·.isTerminate) = true := List.any_eq_true.mpr ⟨_, member, rfl⟩
    obtain ⟨gone, closed⟩ := course.gone ended
    exact ⟨gone, terminate_of_gone course.spawned gone (course.requested.trans ended) closed⟩
  case killed => exact course.killed
  case reports => exact course.reports
  case ends => exact reads_notice course.spawned

/-- How a start goes. -/
structure Started (child : Child) (fails : Message → Bool) : Prop where
  /-- It fails with an error of starts only, and then the child does not live. -/
  faults : ∀ error, (child.start fails).2.2 = .error error →
    error.isStartFault = true ∧ (child.start fails).1.isAlive = false
  /-- It fails exactly if the child cannot be spawned or none of its first lines says that it is ready. -/
  fails_iff : (∃ error, (child.start fails).2.2 = .error error) ↔
    child.behaviour.spawnFault.isSome = true ∨ ∀ line ∈ child.behaviour.output, saysReady line = false
  /-- If the child cannot be spawned, nothing ever befalls it. -/
  absent : child.behaviour.spawnFault.isSome = true → (child.start fails).2.1 = .none ∧
    ∀ history, ((child.start fails).1.steps history).1.isAlive = false ∧
      ∀ report ∈ ((child.start fails).1.steps history).2, report.calls = [] ∧ report.written = []
  /-- If it can, the start takes steps, the last of which ends a child that is not ready. -/
  spawned : child.behaviour.spawnFault = none →
    (child.start fails).1 = (child.opened.steps (startSteps child.behaviour fails)).1 ∧
      (child.start fails).2.1 = .joined (child.opened.steps (startSteps child.behaviour fails)).2

/-- A start that cannot spawn its child fails and leaves it as it is. -/
theorem start_of_spawnFault {child : Child} {number : Int} {text : String}
    (fault : child.behaviour.spawnFault = some (number, text)) (fails : Message → Bool) :
    child.start fails = (child, .none, .error (.cannotSpawn child.settings.interpreter number text)) := by
  rw [start, fault]

section Started

variable {child : Child} {fails : Message → Bool}

/-- A child that cannot be spawned does nothing. -/
theorem started_of_spawnFault (absent : child.spawned = none) {number : Int} {text : String}
    (fault : child.behaviour.spawnFault = some (number, text)) : child.Started fails := by
  have start := start_of_spawnFault fault fails
  constructor
  case faults =>
    intro error failed
    rw [start] at failed ⊢
    obtain rfl := Except.error.inj failed
    exact ⟨rfl, by rw [isAlive, absent]; rfl⟩
  case fails_iff =>
    rw [start, fault]
    exact ⟨fun _ => .inl rfl, fun _ => ⟨_, rfl⟩⟩
  case absent =>
    intro _
    rw [start]
    refine ⟨rfl, fun history => ?_⟩
    obtain ⟨still, silent⟩ := steps_of_unspawned absent history
    exact ⟨by rw [isAlive, still]; rfl, silent⟩
  case spawned =>
    intro spawns
    rw [fault] at spawns
    cases spawns

/-- All steps of a start are read to their ends. -/
theorem isReadable_startSteps (readable : ∀ line ∈ child.behaviour.output, Readable line) :
    ∀ step ∈ startSteps child.behaviour fails, step.IsReadable := by
  intro step member
  rcases List.mem_append.mp member with boot | last
  · exact isReadable_bootSteps fails readable step boot
  · split at last
    · cases last
    · rw [List.mem_singleton.mp last]
      exact trivial

/-- A child that can be spawned takes its steps, and its start fails if no line says that it is ready. -/
theorem started_of_spawned (unready : child.ready = false) (fresh : child.exitRequested = false)
    (readable : ∀ line ∈ child.behaviour.output, Readable line) (spawns : child.behaviour.spawnFault = none) :
    child.Started fails := by
  have start := start_eq fails readable unready spawns
  have spawned : (child.start fails).1 = (child.opened.steps (startSteps child.behaviour fails)).1 ∧
      (child.start fails).2.1 = .joined (child.opened.steps (startSteps child.behaviour fails)).2 := by
    rw [start]
    exact ⟨rfl, rfl⟩
  have absent : ¬ child.behaviour.spawnFault.isSome = true := by simp [spawns]
  have none_iff : child.behaviour.output.any saysReady = false ↔
      ∀ line ∈ child.behaviour.output, saysReady line = false := by simp
  refine ⟨?_, ?_, fun fault => absurd fault absent, fun _ => spawned⟩
  · intro error failed
    rw [start] at failed
    rw [spawned.1]
    cases said : child.behaviour.output.any saysReady with
    | true =>
      rw [said] at failed
      cases failed
    | false =>
      have ended : ChildStep.terminate ∈ startSteps child.behaviour fails := by
        rw [startSteps, said, if_neg Bool.false_ne_true]
        exact List.mem_append_right _ (List.mem_singleton_self _)
      rw [said] at failed
      obtain rfl := Except.error.inj failed
      exact ⟨rfl, ((tended fresh (isReadable_startSteps readable)).gone ended).1⟩
  · rw [or_iff_right absent, ← none_iff, start]
    cases child.behaviour.output.any saysReady <;> simp

end Started

end Child

/-- **No child is left behind.** Of every child with first lines that are read to their ends: its start fails only
with an error of starts, exactly if it cannot be spawned or does not say that it is ready, and leaves no child that
lives; and after any history of lines, commands, faults and ends, with lines that are read to their ends, the child
does not live once it was ended, it was killed only where it lived on after it was asked to exit, and its end was
reported once, as one that was asked for exactly if the child was ended before. -/
theorem child_never_left_behind (settings : Settings) (directory : Option File.Path) (behaviour : ChildBehaviour)
    (fails : Message → Bool) (readable : ∀ line ∈ behaviour.output, Readable line) :
    let child := Child.fresh settings directory behaviour
    child.Started fails ∧
      ∀ history, (∀ step ∈ history, ChildStep.IsReadable step) → child.opened.Tended history := by
  intro child
  refine ⟨?_, fun _ => Child.tended rfl⟩
  cases fault : behaviour.spawnFault with
  | some error => exact Child.started_of_spawnFault rfl fault
  | none => exact Child.started_of_spawned rfl rfl readable fault

/-- A child that never gets ready and ignores the command to exit, and whose input cannot be closed without a fault:
its start fails and kills it. -/
theorem child_never_left_behind_of_stubborn_child :
    let fails : Message → Bool := fun _ => true
    let behaviour : ChildBehaviour := ⟨none, 1, ["boom".toList], ["warn".toList], none, true, true, false⟩
    let child := Child.fresh .standard none behaviour
    (∀ line ∈ behaviour.output, Readable line) ∧ (child.start fails).1.isKilled = true ∧ child.Started fails ∧
      ∀ history, (∀ step ∈ history, ChildStep.IsReadable step) → child.opened.Tended history := by
  intro fails behaviour child
  have readable : ∀ line ∈ behaviour.output, Readable line := by
    refine List.forall_mem_singleton.mpr fun fault refused => ?_
    obtain rfl : fault = .unreadable "boom".toList := (Except.error.inj refused).symm
    rfl
  exact ⟨readable, rfl, child_never_left_behind .standard none behaviour fails readable⟩

end Marginalia

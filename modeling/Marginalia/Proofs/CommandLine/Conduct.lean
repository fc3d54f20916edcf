import Marginalia.CommandLine
import Marginalia.Proofs.Child.Steps

/-! # The conduct of a child
The command line sees its host as a script: whether it starts, what it says, and whether it ends on its own.
Where the host is a child (`Conduct`), the script is what comes of starting the child, reading its lines and
noticing its end. All of it can be told from what the child does: the script says that the host does not start
if the child cannot be spawned or does not say that it is ready (`Conduct.FailsToStart`), it has the messages on
the lines of the child (`Brings`), and it has the end of the child unless one of the lines put an end to the
reading first (`Conduct.ExitNoticed`). -/

namespace Marginalia

open Text File

/-! ## Messages on lines of any kind -/

/-- The messages that some lines bring: those up to the first line that puts an end to the reading. -/
def brought : List (List Char) → List Message
  | [] => []
  | line :: lines =>
    match Message.decode (trim line) with
    | .ok message => message :: brought lines
    | .error fault => if fault.isMalformed then brought lines else []

/-- A line is read to its end exactly if the type of its object can be looked up. -/
theorem readable_iff {line : List Char} : Readable line ↔ ¬ Message.NamesCompound (trim line) := by
  cases decoded : Message.decode (trim line) with
  | ok message =>
    obtain ⟨type, holds⟩ := Message.holds_of_decode decoded
    refine iff_of_true (fun fault refused => ?_) holds.not_namesCompound
    cases decoded.symm.trans refused
  | error fault =>
    rw [← Message.isMalformed_of_decode decoded]
    refine ⟨fun readable => readable fault decoded, fun malformed other refused => ?_⟩
    obtain rfl : fault = other := Except.error.inj (decoded.symm.trans refused)
    exact malformed

/-- A line that is read to its end brings its message, and the lines after it bring theirs. -/
theorem brought_cons_of_readable {line : List Char} (readable : ¬ Message.NamesCompound (trim line))
    (lines : List (List Char)) : brought (line :: lines) = (messageOf? line).toList ++ brought lines := by
  rw [brought, messageOf?]
  cases decoded : Message.decode (trim line) with
  | ok message => rfl
  | error fault =>
    dsimp only
    rw [if_pos ((Message.isMalformed_of_decode decoded).mpr readable)]
    rfl

/-- A line that puts an end to the reading brings nothing. -/
theorem brought_cons_of_namesCompound {line : List Char} (compound : Message.NamesCompound (trim line))
    (lines : List (List Char)) : brought (line :: lines) = [] := by
  rw [brought]
  cases decoded : Message.decode (trim line) with
  | ok message =>
    obtain ⟨type, holds⟩ := Message.holds_of_decode decoded
    exact absurd compound holds.not_namesCompound
  | error fault => exact if_neg fun malformed => (Message.isMalformed_of_decode decoded).mp malformed compound

/-- Lines that are all read bring their messages, and then the lines after them bring theirs. -/
theorem brought_append_of_readable {first : List (List Char)}
    (readable : ∀ line ∈ first, ¬ Message.NamesCompound (trim line)) (second : List (List Char)) :
    brought (first ++ second) = brought first ++ brought second := by
  induction first with
  | nil => rfl
  | cons line first ih =>
    obtain ⟨reads, others⟩ := List.forall_mem_cons.mp readable
    rw [List.cons_append, brought_cons_of_readable reads, brought_cons_of_readable reads, ih others, List.append_assoc]

/-- Nothing comes after a line that puts an end to the reading. -/
theorem brought_append_of_not_readable {first : List (List Char)}
    (unreadable : ¬ ∀ line ∈ first, ¬ Message.NamesCompound (trim line)) (second : List (List Char)) :
    brought (first ++ second) = brought first := by
  induction first with
  | nil => exact absurd (List.forall_mem_nil _) unreadable
  | cons line first ih =>
    rw [List.forall_mem_cons] at unreadable
    rw [List.cons_append]
    by_cases reads : Message.NamesCompound (trim line)
    · rw [brought_cons_of_namesCompound reads, brought_cons_of_namesCompound reads]
    · rw [brought_cons_of_readable reads, brought_cons_of_readable reads, ih fun others => unreadable ⟨reads, others⟩]

namespace Child

/-- What lines do to a child, whatever they hold. -/
structure Takes (child : Child) (lines : List (List Char)) (after : Child) (report : ChildReport) : Prop where
  /-- Their messages are handed on, if the child is read, unless they say that it is ready. -/
  messages : report.messages = if child.reads then (brought lines).filter (!·.isReady) else []
  /-- The child is ready if it was, or if one of them says so. -/
  ready : after.ready = (child.ready || (child.reads && (brought lines).any (·.isReady)))
  /-- The child is read on, unless one of them puts an end to that. -/
  reads : after.reads = true ↔ child.reads = true ∧ ∀ line ∈ lines, ¬ Message.NamesCompound (trim line)
  /-- They report no end. -/
  exits : report.exits = []
  /-- They do not end the child. -/
  isAlive : after.isAlive = child.isAlive
  /-- They do not change how it behaves. -/
  behaviour : after.behaviour = child.behaviour

/-- Lines may be taken in two parts. -/
theorem Takes.append {child middle after : Child} {first second : List (List Char)} {early late : ChildReport}
    (before : child.Takes first middle early) (later : middle.Takes second after late) :
    child.Takes (first ++ second) after (early ++ late) := by
  have parts : (child.reads = true → middle.reads = true →
        brought (first ++ second) = brought first ++ brought second) ∧
      (child.reads = true → middle.reads = false → brought (first ++ second) = brought first) ∧
      (child.reads = false → middle.reads = false) := by
    refine ⟨fun _ goes => brought_append_of_readable (before.reads.mp goes).2 second, fun reads ends => ?_,
      fun unread => ?_⟩
    · refine brought_append_of_not_readable (fun readable => ?_) second
      cases ends.symm.trans (before.reads.mpr ⟨reads, readable⟩)
    · refine Bool.eq_false_iff.mpr fun goes => ?_
      cases unread.symm.trans (before.reads.mp goes).1
  constructor
  · rw [ChildReport.messages_append, before.messages, later.messages]
    cases reads : child.reads with
    | false => simp [parts.2.2 reads]
    | true =>
      cases goes : middle.reads with
      | false => simp [parts.2.1 reads goes]
      | true => simp [parts.1 reads goes]
  · rw [later.ready, before.ready]
    cases reads : child.reads with
    | false => simp [parts.2.2 reads]
    | true =>
      cases goes : middle.reads with
      | false => simp [parts.2.1 reads goes]
      | true => simp [parts.1 reads goes, Bool.or_assoc]
  · rw [later.reads, before.reads, List.forall_mem_append, and_assoc]
  · rw [ChildReport.exits_append, before.exits, later.exits]
    rfl
  · exact later.isAlive.trans before.isAlive
  · exact later.behaviour.trans before.behaviour

/-- Nothing comes of a line of a child that is not read. -/
theorem readLine_of_not_reads {child : Child} (unread : ¬ child.reads = true) (fails : Message → Bool)
    (line : List Char) : child.readLine fails line = (child, .none) := by
  rw [readLine]
  exact if_neg unread

/-- A line that is not read to its end puts an end to the reading, and nothing else comes of it. -/
theorem readLine_of_not_readable {child : Child} {line : List Char} (reading : child.reads = true)
    (unreadable : ¬ Readable line) (fails : Message → Bool) :
    child.readLine fails line = (child.change fun spawned => { spawned with reading := false }, .none) := by
  obtain ⟨fault, both⟩ := not_forall.mp unreadable
  obtain ⟨refused, unforeseen⟩ := Classical.not_imp.mp both
  rw [readLine, if_pos (show child.spawned.any (·.reading) = true from reading)]
  dsimp only
  split
  · next blank =>
    -- A blank line is read to its end.
    rw [List.isEmpty_iff.mp blank] at refused
    obtain rfl := Except.error.inj refused
    exact absurd rfl unforeseen
  · rw [refused]
    exact if_neg unforeseen

/-- Any line is taken. -/
theorem takes_readLine (child : Child) (fails : Message → Bool) (line : List Char) :
    child.Takes [line] (child.readLine fails line).1 (child.readLine fails line).2 := by
  have reads : (child.readLine fails line).1.reads = true ↔
      child.reads = true ∧ ∀ other ∈ [line], ¬ Message.NamesCompound (trim other) := by
    rw [reads_readLine, List.forall_mem_singleton]
  by_cases reading : child.reads = true
  · by_cases readable : Readable line
    · have brings : brought [line] = (messageOf? line).toList := by
        rw [brought_cons_of_readable (readable_iff.mp readable)]
        exact List.append_nil _
      obtain ⟨logs, result⟩ := child.readLine_eq fails readable
      rw [if_pos reading] at result
      rw [result] at reads ⊢
      refine ⟨?_, ?_, reads, rfl, rfl, rfl⟩
      · rw [brings, if_pos reading]
      · rw [brings, reading]
        cases messageOf? line <;> simp [note]
    · have brings : brought [line] = [] :=
        brought_cons_of_namesCompound (not_not.mp (mt readable_iff.mpr readable)) []
      have result := readLine_of_not_readable reading readable fails
      rw [result] at reads ⊢
      refine ⟨?_, ?_, reads, rfl, ?_, rfl⟩
      · simp [ChildReport.none, brings]
      · simp [change, brings]
      · rw [isAlive, isAlive, change, Option.any_map]
  · rw [readLine_of_not_reads reading] at reads ⊢
    exact ⟨by simp [ChildReport.none, reading], by simp [reading], reads, rfl, rfl, rfl⟩

/-- Any lines are taken. -/
theorem takes_readLines (child : Child) (fails : Message → Bool) (lines : List (List Char)) :
    child.Takes lines (child.readLines fails lines).1 (child.readLines fails lines).2 := by
  induction lines generalizing child with
  | nil =>
    exact ⟨by simp [readLines, readEach, ChildReport.none, brought],
      by simp [readLines, readEach, brought], (and_iff_left (List.forall_mem_nil _)).symm, rfl, rfl, rfl⟩
  | cons line lines ih => exact (child.takes_readLine fails line).append (ih (child.readLine fails line).1)

/-- Lines about trouble are kept and logged, and that is all that comes of them. -/
theorem readTroubles_eq (child : Child) (lines : List (List Char)) :
    ∃ kept logs, child.readTroubles lines = ({ child with troubleLines := kept }, .ofLogs logs) := by
  induction lines generalizing child with
  | nil => exact ⟨child.troubleLines, [], rfl⟩
  | cons line lines ih =>
    have first : ∃ kept logs, child.readTrouble line = ({ child with troubleLines := kept }, .ofLogs logs) := by
      unfold readTrouble
      dsimp only
      split
      · exact ⟨child.troubleLines, [], rfl⟩
      · exact ⟨_, _, rfl⟩
    obtain ⟨keptFirst, logsFirst, now⟩ := first
    obtain ⟨kept, logs, later⟩ := ih { child with troubleLines := keptFirst }
    refine ⟨kept, logsFirst ++ logs, ?_⟩
    rw [readTroubles, readEach, now]
    dsimp only
    rw [← readTroubles, later]
    rfl

/-! ## Starting -/

/-- The end of a child that lives is noticed if its output is read, and nothing is read any more. -/
theorem ended_spec {child : Child} (alive : child.isAlive = true) (code : Int) :
    (child.ended code).2.exits = (if child.reads then [(code, child.exitRequested)] else []) ∧
      (child.ended code).1.reads = false ∧ (child.ended code).1.isAlive = false ∧
      (child.ended code).1.ready = child.ready := by
  obtain ⟨spawned, known, lives⟩ := isAlive_iff.mp alive
  rw [ended_of_lives known lives, reads, known]
  exact ⟨rfl, rfl, rfl, rfl⟩

/-- A child that was spawned takes the lines that are there from the start, and then it may end. -/
theorem boot_spec {child : Child} (unready : child.ready = false) (fails : Message → Bool) :
    ∃ (opened heard : Child) (taken : ChildReport) (logs : List Log.Record),
      opened.reads = true ∧ opened.ready = false ∧ opened.isAlive = true ∧
      opened.Takes child.behaviour.output heard taken ∧
      (child.behaviour.bootExit = none → child.boot fails = (heard, .ofLogs logs ++ taken ++ .none)) ∧
      ∀ code, child.behaviour.bootExit = some code →
        child.boot fails = ((heard.ended code).1, .ofLogs logs ++ taken ++ (heard.ended code).2) := by
  obtain ⟨kept, logs, told⟩ := child.opened.readTroubles_eq child.behaviour.trouble
  let opened : Child := { child.opened with troubleLines := kept }
  have takes := opened.takes_readLines fails child.behaviour.output
  have behaves : (opened.readLines fails child.behaviour.output).1.behaviour = child.behaviour := takes.behaviour
  have same : opened.behaviour = child.behaviour := rfl
  have first : ({ child with spawned := some child.behaviour.spawn } : Child).readTroubles child.behaviour.trouble =
      (opened, .ofLogs logs) := told
  refine ⟨opened, _, _, logs, rfl, unready, rfl, takes, fun stays => ?_, fun code ends => ?_⟩
  · simp only [boot, first, same, behaves, stays]
  · simp only [boot, first, same, behaves, ends]

end Child

/-! ## The script of a child -/

/-- What of a child is noticed before the results are looked at. -/
inductive Glimpse where
  /-- The first messages alone. -/
  | early (count : Nat)
  /-- All messages, and then its end, if it ends: when the submission has come that far, and so far itself. -/
  | whole (stage : CommandLine.Stage) (noted : CommandLine.Noted)
  deriving DecidableEq

/-- What a child does that is started as the host of a document, and what of it is noticed. -/
structure Conduct where
  /-- How it behaves when it is started. -/
  behaviour : ChildBehaviour
  /-- How many commands it accepts; no bound if there is none. -/
  capacity : Option Nat
  /-- The lines of its output after those that are there from the start. -/
  lines : List (List Char)
  /-- The code with which it ends after them, if it ends on its own. -/
  exit : Option Int
  /-- What of it is noticed before the results are looked at. -/
  glimpse : Glimpse

namespace Conduct

/-- Start the child. -/
def started (conduct : Conduct) (settings : Settings) (directory : Option Path) :
    Child × ChildReport × Except ChildError Unit :=
  (Child.fresh settings directory conduct.behaviour).start fun _ => false

/-- The host that the command line sees. -/
def script (conduct : Conduct) (settings : Settings) (directory : Option Path) : CommandLine.HostScript :=
  match conduct.started settings directory with
  | (_, _, .error error) => ⟨some error.message, conduct.capacity, [], true, none⟩
  | (child, report, .ok ()) =>
    let read := child.readLines (fun _ => false) conduct.lines
    let messages := report.messages ++ read.2.messages
    let exits := report.exits ++ (conduct.exit.map fun code => (read.1.ended code).2.exits).getD []
    match conduct.glimpse with
    | .early count => ⟨none, conduct.capacity, messages.take count, true, none⟩
    | .whole stage noted =>
      ⟨none, conduct.capacity, messages, true,
        exits.head?.map fun (code, _) => ⟨some code, read.1.troubleText, stage, noted⟩⟩

/-- All lines of the child's output: one that ends in its start writes no more. -/
def written (conduct : Conduct) : List (List Char) :=
  conduct.behaviour.output ++ if conduct.behaviour.bootExit.isSome then [] else conduct.lines

/-- The messages of the child that are noticed. -/
def noticed (conduct : Conduct) : List Message :=
  let messages := (brought conduct.written).filter (!·.isReady)
  match conduct.glimpse with
  | .early count => messages.take count
  | .whole _ _ => messages

/-- The child cannot be spawned, or none of its first lines says that it is ready. -/
def FailsToStart (conduct : Conduct) : Prop :=
  conduct.behaviour.spawnFault.isSome = true ∨
    ¬ ∃ message ∈ brought conduct.behaviour.output, message.isReady = true

/-- The child ends on its own, and its output is read up to there. -/
def Ends (conduct : Conduct) : Prop :=
  (conduct.behaviour.bootExit.isSome = true ∨ conduct.exit.isSome = true) ∧
    ∀ line ∈ conduct.written, ¬ Message.NamesCompound (trim line)

/-- The end of the child is noticed, when the submission has come to a stage and so far itself. -/
def EndNoticed (conduct : Conduct) (stage : CommandLine.Stage) (noted : CommandLine.Noted) : Prop :=
  conduct.Ends ∧ conduct.glimpse = .whole stage noted

/-- The process fails before the document is fed: it does not start, or its end is noticed by then. -/
def FailsEarly (conduct : Conduct) : Prop :=
  conduct.FailsToStart ∨ ∃ stage noted, conduct.EndNoticed stage noted ∧ stage ≠ .fed ∧ noted ≠ .drained

/-- What is noticed of the child says that there is nothing more to report: a message does, or its end. -/
def SaysDrained (conduct : Conduct) : Prop :=
  (∃ message ∈ conduct.noticed, message.type? = some .drained) ∨ ∃ stage noted, conduct.EndNoticed stage noted

section Script

variable (conduct : Conduct) (settings : Settings) (directory : Option Path)

/-- The start of the child fails exactly if it cannot be spawned or does not say that it is ready. -/
theorem failsToStart_iff :
    conduct.FailsToStart ↔ ∃ error, (conduct.started settings directory).2.2 = .error error := by
  let child := Child.fresh settings directory conduct.behaviour
  have unready : child.ready = false := rfl
  obtain ⟨opened, heard, taken, logs, reads, notYet, alive, takes, stays, ends⟩ :=
    Child.boot_spec unready fun _ => false
  have booted : (child.boot fun _ => false).1.ready = heard.ready := by
    cases boot : conduct.behaviour.bootExit with
    | none => rw [stays boot]
    | some code =>
      rw [ends code boot]
      exact (Child.ended_spec (takes.isAlive.trans alive) code).2.2.2
  have ready : heard.ready = true ↔ ∃ message ∈ brought conduct.behaviour.output, message.isReady = true := by
    rw [takes.ready, notYet, reads, Bool.false_or, Bool.true_and, List.any_eq_true]
    rfl
  have start : conduct.started settings directory = child.start fun _ => false := rfl
  rw [FailsToStart, ← ready, ← booted, start, Child.start]
  have behaves : child.behaviour.spawnFault = conduct.behaviour.spawnFault := rfl
  rw [behaves]
  cases conduct.behaviour.spawnFault with
  | some fault => exact iff_of_true (.inl rfl) ⟨_, rfl⟩
  | none =>
    dsimp only
    split
    · next goes => simp [goes]
    · next waits => simp [waits]

/-- A start that does not fail is the spawning of the child. -/
theorem started_of_ok {child : Child} {report : ChildReport}
    (fine : conduct.started settings directory = (child, report, .ok ())) :
    ((Child.fresh settings directory conduct.behaviour).boot fun _ => false) = (child, report) := by
  rw [started, Child.start] at fine
  split at fine
  · cases fine
  · dsimp only at fine
    split at fine
    · obtain ⟨rfl, rfl⟩ := Prod.mk.inj (congrArg (fun result => (result.1, result.2.1)) fine)
      rfl
    · cases fine

/-- What is heard of a child that ends in its start: the messages of its first lines, and its end if all of them
are read. -/
theorem heard_of_bootExit {child : Child} {report : ChildReport} {code : Int}
    (fine : conduct.started settings directory = (child, report, .ok ()))
    (boot : conduct.behaviour.bootExit = some code) :
    let read := child.readLines (fun _ => false) conduct.lines
    let exits := report.exits ++ (conduct.exit.map fun code => (read.1.ended code).2.exits).getD []
    report.messages ++ read.2.messages = (brought conduct.behaviour.output).filter (!·.isReady) ∧
      (exits.head?.isSome = true ↔
        ∀ line ∈ conduct.behaviour.output, ¬ Message.NamesCompound (trim line)) := by
  intro read exits
  have unready : (Child.fresh settings directory conduct.behaviour).ready = false := rfl
  obtain ⟨opened, heard, taken, logs, reads, -, alive, takes, -, ends⟩ := Child.boot_spec unready fun _ => false
  obtain ⟨rfl, rfl⟩ := Prod.mk.inj ((conduct.started_of_ok settings directory fine).symm.trans (ends code boot))
  obtain ⟨last, unread, gone, -⟩ := Child.ended_spec (takes.isAlive.trans alive) code
  -- The child ended in its start, so nothing comes of it later.
  have later := (heard.ended code).1.takes_readLines (fun _ => false) conduct.lines
  have lifeless : read.1.isAlive = false := later.isAlive.trans gone
  have noExit : (conduct.exit.map fun code => (read.1.ended code).2.exits).getD [] = [] := by
    cases conduct.exit with
    | none => rfl
    | some last => exact congrArg (·.2.exits) (Child.ended_of_not_isAlive lifeless last)
  constructor
  · have nothing : read.2.messages = [] := by
      rw [later.messages, unread]
      rfl
    have told := takes.messages
    rw [if_pos reads] at told
    simp only [nothing, ChildReport.messages_append, told, Child.messages_ended, ChildReport.ofLogs, List.nil_append,
      List.append_nil]
    rfl
  · have going := takes.reads
    rw [and_iff_right reads] at going
    simp only [exits, noExit, ChildReport.exits_append, takes.exits, last, List.append_nil]
    refine Iff.trans ?_ going
    cases heard.reads <;> simp [ChildReport.ofLogs]

/-- What is heard of a child that lives on after its start: the messages of all its lines, and its end if it ends
after them and all of them are read. -/
theorem heard_of_lives {child : Child} {report : ChildReport}
    (fine : conduct.started settings directory = (child, report, .ok ()))
    (boot : conduct.behaviour.bootExit = none) :
    let read := child.readLines (fun _ => false) conduct.lines
    let exits := report.exits ++ (conduct.exit.map fun code => (read.1.ended code).2.exits).getD []
    report.messages ++ read.2.messages =
        (brought (conduct.behaviour.output ++ conduct.lines)).filter (!·.isReady) ∧
      (exits.head?.isSome = true ↔ conduct.exit.isSome = true ∧
        ∀ line ∈ conduct.behaviour.output ++ conduct.lines, ¬ Message.NamesCompound (trim line)) := by
  intro read exits
  have unready : (Child.fresh settings directory conduct.behaviour).ready = false := rfl
  obtain ⟨opened, heard, taken, logs, reads, -, alive, takes, stays, -⟩ := Child.boot_spec unready fun _ => false
  obtain ⟨rfl, rfl⟩ := Prod.mk.inj ((conduct.started_of_ok settings directory fine).symm.trans (stays boot))
  have whole : opened.Takes (conduct.behaviour.output ++ conduct.lines) read.1 (taken ++ read.2) :=
    takes.append (child.takes_readLines (fun _ => false) conduct.lines)
  constructor
  · have told := whole.messages
    rw [if_pos reads] at told
    rw [← told]
    simp [ChildReport.ofLogs, ChildReport.none]
  · have going := whole.reads
    rw [and_iff_right reads] at going
    rw [← going]
    simp only [exits, ChildReport.exits_append, takes.exits]
    cases exit : conduct.exit with
    | none => simp [ChildReport.ofLogs, ChildReport.none]
    | some code =>
      obtain ⟨last, -⟩ := Child.ended_spec (whole.isAlive.trans alive) code
      rw [Option.map_some, Option.getD_some, last]
      cases read.1.reads <;> simp [ChildReport.ofLogs, ChildReport.none]

/-- What is heard of a child that does not fail to start: the messages of its lines, and its end if it ends on its
own and is read up to there. -/
theorem heard_spec {child : Child} {report : ChildReport}
    (fine : conduct.started settings directory = (child, report, .ok ())) :
    let read := child.readLines (fun _ => false) conduct.lines
    let exits := report.exits ++ (conduct.exit.map fun code => (read.1.ended code).2.exits).getD []
    report.messages ++ read.2.messages = (brought conduct.written).filter (!·.isReady) ∧
      (exits.head?.isSome = true ↔ conduct.Ends) := by
  rw [Ends, written]
  cases boot : conduct.behaviour.bootExit with
  | some code => simpa using conduct.heard_of_bootExit settings directory fine boot
  | none => simpa using conduct.heard_of_lives settings directory fine boot

/-- What the command line sees of a child. -/
structure Shows (script : CommandLine.HostScript) : Prop where
  /-- The host cannot be started exactly if the start of the child fails. -/
  startFault : script.startFault.isSome = true ↔ conduct.FailsToStart
  /-- The host accepts what the child accepts. -/
  capacity : script.capacity = conduct.capacity
  /-- What cannot be taken is passed over. -/
  guarded : script.guarded = true
  /-- A host that is started says what is noticed of the child. -/
  messages : ¬ conduct.FailsToStart → script.messages = conduct.noticed
  /-- The end of a host that is started is what is noticed of that of the child. -/
  ending : ¬ conduct.FailsToStart → ∀ stage noted, conduct.EndNoticed stage noted ↔
    ∃ ending, script.ending = some ending ∧ ending.stage = stage ∧ ending.noted = noted

/-- **The command line sees of a child what is noticed of it.** -/
theorem shows_script : conduct.Shows (conduct.script settings directory) := by
  have fails := conduct.failsToStart_iff settings directory
  rcases started : conduct.started settings directory with ⟨child, report, error | done⟩
  · have failing : conduct.FailsToStart := fails.mpr ⟨error, by rw [started]⟩
    have seen : conduct.script settings directory = ⟨some error.message, conduct.capacity, [], true, none⟩ := by
      rw [script, started]
    rw [seen]
    exact ⟨iff_of_true rfl failing, rfl, rfl, absurd failing, absurd failing⟩
  · have starts : ¬ conduct.FailsToStart := by
      rw [fails, started]
      rintro ⟨error, failed⟩
      cases failed
    obtain ⟨heard, ended⟩ := conduct.heard_spec settings directory started
    cases glimpse : conduct.glimpse with
    | early count =>
      have seen : conduct.script settings directory =
          ⟨none, conduct.capacity, conduct.noticed, true, none⟩ := by
        simp only [script, started, noticed, glimpse, heard]
      rw [seen]
      refine ⟨iff_of_false Bool.false_ne_true starts, rfl, rfl, fun _ => rfl, fun _ stage noted => ?_⟩
      simp [EndNoticed, glimpse]
    | whole stage noted =>
      let read := child.readLines (fun _ => false) conduct.lines
      let exits := report.exits ++ (conduct.exit.map fun code => (read.1.ended code).2.exits).getD []
      have seen : conduct.script settings directory =
          ⟨none, conduct.capacity, conduct.noticed, true,
            exits.head?.map fun (code, _) => ⟨some code, read.1.troubleText, stage, noted⟩⟩ := by
        simp only [script, started, noticed, glimpse, heard]
        rfl
      rw [seen]
      refine ⟨iff_of_false Bool.false_ne_true starts, rfl, rfl, fun _ => rfl, fun _ other so => ?_⟩
      rw [EndNoticed, glimpse, ← ended]
      cases exits.head? with
      | none => simp
      | some last => simp

end Script

end Conduct

end Marginalia

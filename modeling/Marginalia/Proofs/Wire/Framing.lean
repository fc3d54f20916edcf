import Marginalia.Child
import Marginalia.Host
import Marginalia.Proofs.Json.RoundTrip
import Marginalia.Proofs.Text.Lines
import Mathlib.Algebra.Order.Ring.Nat

/-! # Commands on the channel
A child gets its commands as one text, a line for each command. Nothing but the line feed behind a command
ends a line of that text, and each line is read back as the command that was sent (`commands_arrive`), by
the host as by any other reader (`takeLine_line`). -/

namespace Marginalia

open Text

/-! ## One command -/

namespace Command

/-- A command whose fields have names of their own, none of them a taken one, and values that the wire takes
exactly: texts, and integers that are not too long. -/
structure Sendable (command : Command) : Prop where
  /-- No name is given twice, and no taken one. -/
  named : (takenNames ++ command.fields.map (·.1)).Nodup
  /-- No value is rounded. -/
  exact : ∀ field ∈ command.fields, field.2.Exact
  /-- All values can be written. -/
  written : ∀ field ∈ command.fields, field.2.isWritten = true

/-- An evaluation is sendable if its line can be written, whatever text it asks to evaluate. -/
theorem sendable_eval {line : Int} (writes : isWritable line = true) (code : String) : (eval line code).Sendable where
  named := (by decide : ["self", "op", "line", "code"].Nodup)
  exact := List.forall_mem_cons.mpr ⟨.int line, List.forall_mem_singleton.mpr (.str code)⟩
  written := List.forall_mem_cons.mpr ⟨writes, List.forall_mem_singleton.mpr rfl⟩

theorem sendable_endOfInput : endOfInput.Sendable := ⟨by decide, nofun, nofun⟩

variable {command : Command}

theorem Sendable.exact_toJson (sendable : command.Sendable) : command.toJson.Exact :=
  .object (List.nodup_cons.mp sendable.named).2 (List.forall_mem_cons.mpr ⟨.str command.name, sendable.exact⟩)

/-- Members are written if all their values are. -/
theorem areWrittenMembers_of_forall {members : List (String × Json)}
    (each : ∀ member ∈ members, member.2.isWritten = true) : Json.areWrittenMembers members = true := by
  induction members with
  | nil => rfl
  | cons member members ih =>
    obtain ⟨first, others⟩ := List.forall_mem_cons.mp each
    rw [Json.areWrittenMembers, first, ih others]
    rfl

/-- Nothing keeps a sendable command from being written on its line. -/
theorem Sendable.encode_eq (sendable : command.Sendable) : command.encode = .ok (command.line ++ ['\n']) := by
  have written : command.toJson.isWritten = true := by
    rw [toJson, Json.isWritten, Json.areWrittenMembers, areWrittenMembers_of_forall sendable.written]
    rfl
  rw [encode, fault?, if_pos written]

theorem Sendable.takenName?_eq_none (sendable : command.Sendable) : command.takenName? = none := by
  have apart := (List.nodup_append.mp sendable.named).2.2
  refine List.find?_eq_none.mpr fun name member taken => ?_
  exact apart name (List.contains_iff_mem.mp taken) name member rfl

/-- A line is read back as its command. -/
theorem Sendable.read?_line (sendable : command.Sendable) (dialect : Json.Dialect) :
    Json.read? dialect command.line = some command.toJson :=
  Json.read?_render dialect sendable.exact_toJson

/-- A line is plain ASCII. -/
theorem Sendable.isPlain_of_mem (sendable : command.Sendable) : ∀ c ∈ command.line, Json.isPlain c = true :=
  sendable.exact_toJson.isPlain_of_mem

end Command

/-! ## Characters of the channel -/

/-- No plain character ends a row. -/
theorem isRowBreak_of_isPlain {c : Char} (plain : Json.isPlain c = true) : isRowBreak c = false := by
  obtain ⟨low, high⟩ := Json.isPlain_iff.mp plain
  simp only [isRowBreak, Bool.or_eq_false_iff, Bool.and_eq_false_iff, decide_eq_false_iff_not,
    beq_eq_false_iff_ne]
  omega

/-- A line without row breaks and the line feed behind it are one row. -/
theorem rows_line {text : List Char} (plain : ∀ c ∈ text, isRowBreak c = false) (rest : List Char) :
    rows (text ++ '\n' :: rest) = text :: rows rest := by
  induction text with
  | nil => rfl
  | cons c text ih =>
    obtain ⟨keeps, others⟩ := List.forall_mem_cons.mp plain
    rw [List.cons_append, rows_cons keeps, ih others, consHead_cons]

/-! ## All commands -/

/-- A text that carries some commands. -/
structure Carries (text : List Char) (commands : List Command) : Prop where
  /-- The text is pure ASCII. -/
  ascii : ∀ c ∈ text, c.toNat < 0x80
  /-- There are as many line feeds as commands. -/
  ends : lineFeeds text = commands.length
  /-- Nothing else ends a line. -/
  breaks : ∀ c ∈ text, isRowBreak c = true → c = '\n'
  /-- The line feeds split it into the lines of the commands, with nothing behind the last one. -/
  splits : text.splitOn '\n' = commands.map Command.line ++ [[]]
  /-- So do all characters that end a row. -/
  rows : rows text = commands.map Command.line
  /-- The lines are read back as the commands. -/
  reads : ∀ dialect, (commands.map Command.line).map (Json.read? dialect) =
    commands.map (some ·.toJson)

/-- The lines of sendable commands carry them. -/
theorem carries_lines {commands : List Command} (sendable : ∀ command ∈ commands, command.Sendable) :
    Carries (commands.flatMap (·.line ++ ['\n'])) commands := by
  induction commands with
  | nil => exact ⟨nofun, rfl, nofun, rfl, rfl, fun _ => rfl⟩
  | cons command commands ih =>
    obtain ⟨first, others⟩ := List.forall_mem_cons.mp sendable
    have rest := ih others
    have plain := first.isPlain_of_mem
    -- A line feed is not plain, so the first one in the text is the one behind the command.
    have noFeed : '\n' ∉ command.line := fun member => absurd (plain _ member) (by decide)
    have text : (command :: commands).flatMap (·.line ++ ['\n']) =
        command.line ++ '\n' :: commands.flatMap (·.line ++ ['\n']) := by
      rw [List.flatMap_cons, List.append_assoc, List.singleton_append]
    rw [text]
    constructor
    case ascii =>
      intro c member
      rcases List.mem_append.mp member with inLine | behind
      · have := Json.isPlain_iff.mp (plain c inLine)
        omega
      · rcases List.mem_cons.mp behind with rfl | later
        · decide
        · exact rest.ascii c later
    case ends =>
      have none : lineFeeds command.line = 0 := List.count_eq_zero.mpr noFeed
      rw [lineFeeds_append, none, lineFeeds, List.count_cons_self, ← lineFeeds, rest.ends]
      simp
    case breaks =>
      intro c member ends
      rcases List.mem_append.mp member with inLine | behind
      · rw [isRowBreak_of_isPlain (plain c inLine)] at ends
        cases ends
      · rcases List.mem_cons.mp behind with rfl | later
        · rfl
        · exact rest.breaks c later ends
    case splits =>
      have none : ∀ c ∈ command.line, (c == '\n') = false := fun c member =>
        beq_eq_false_iff_ne.mpr fun same => noFeed (same ▸ member)
      rw [List.splitOn, List.splitOnP_append_cons_of_forall_mem none _ (beq_self_eq_true _), ← List.splitOn,
        rest.splits]
      rfl
    case rows =>
      rw [rows_line (fun c member => isRowBreak_of_isPlain (plain c member)), rest.rows]
      rfl
    case reads =>
      intro dialect
      rw [List.map_cons, List.map_cons, List.map_cons, first.read?_line, rest.reads]

namespace Child

/-- Send some commands in order. -/
def sendAll (child : Child) : List Command → Child × ChildReport × List (Except ChildError Unit)
  | [] => (child, .none, [])
  | command :: commands =>
    let (child, first, outcome) := child.send command
    let (child, others, outcomes) := child.sendAll commands
    (child, first ++ others, outcome :: outcomes)

theorem sendAll_cons (child : Child) (command : Command) (commands : List Command) :
    child.sendAll (command :: commands) =
      (((child.send command).1.sendAll commands).1,
        (child.send command).2.1 ++ ((child.send command).1.sendAll commands).2.1,
        (child.send command).2.2 :: ((child.send command).1.sendAll commands).2.2) := rfl

/-- A child that was spawned and whose input takes what is written. -/
def Listens (child : Child) : Prop := ∃ spawned, child.spawned = some spawned ∧ spawned.input = .intact

/-- The end of a child leaves its input as it is, and nothing is written. -/
theorem ended_listens {child : Child} (listens : child.Listens) (code : Int) :
    (child.ended code).1.Listens ∧ (child.ended code).2.written = [] := by
  obtain ⟨spawned, present, intact⟩ := listens
  rw [ended, present]
  dsimp only
  split
  · exact ⟨⟨_, rfl, intact⟩, rfl⟩
  · exact ⟨⟨spawned, present, intact⟩, rfl⟩

/-- A child that listens gets the line of a sendable command, and goes on listening. -/
theorem send_listens {child : Child} (listens : child.Listens) {command : Command} (sendable : command.Sendable) :
    (child.send command).1.Listens ∧ (child.send command).2.1.written = [command.line ++ ['\n']] ∧
      (child.send command).2.2 = .ok () := by
  have ⟨spawned, present, intact⟩ := listens
  rw [send, present, sendable.takenName?_eq_none, sendable.encode_eq]
  simp only [intact, ChildInput.fault?, write]
  split
  · obtain ⟨after, silent⟩ := ended_listens listens 0
    refine ⟨after, ?_, trivial⟩
    rw [ChildReport.written_append, silent]
    rfl
  · exact ⟨listens, rfl, trivial⟩

/-- Every one of several sendable commands gets to a child that listens, on a line of its own. -/
theorem sendAll_listens {child : Child} (listens : child.Listens) {commands : List Command}
    (sendable : ∀ command ∈ commands, command.Sendable) :
    (child.sendAll commands).2.1.written = commands.map (·.line ++ ['\n']) ∧
      (child.sendAll commands).2.2 = commands.map fun _ => .ok () := by
  induction commands generalizing child with
  | nil => exact ⟨rfl, rfl⟩
  | cons command commands ih =>
    obtain ⟨first, later⟩ := List.forall_mem_cons.mp sendable
    obtain ⟨after, written, taken⟩ := send_listens listens first
    obtain ⟨others, allTaken⟩ := ih after later
    rw [sendAll_cons, ChildReport.written_append, written, others, taken, allTaken]
    exact ⟨rfl, rfl⟩

end Child

/-! ## The other end -/

/-- The host takes the line of a command as that command. -/
theorem Host.takeLine_line (host : Host) {command : Command} (sendable : command.Sendable) :
    host.takeLine command.line = host.take command.toJson := by
  rw [takeLine, sendable.read?_line]

/-- **Commands arrive as they were sent.** Whatever commands are sent to a child that listens, their fields any
texts and any integers that are not too long, under names that are not taken: each is taken, and the text that
the child gets carries exactly them, in order. It is pure ASCII, nothing but the line feed behind each command
ends a line, and the lines are read back as the commands with all fields. -/
theorem commands_arrive {child : Child} (listens : child.Listens) {commands : List Command}
    (sendable : ∀ command ∈ commands, command.Sendable) :
    ((child.sendAll commands).2.2 = commands.map fun _ => .ok ()) ∧
      Carries (child.sendAll commands).2.1.written.flatten commands := by
  obtain ⟨written, taken⟩ := Child.sendAll_listens listens sendable
  refine ⟨taken, ?_⟩
  rw [written, ← List.flatMap_def]
  exact carries_lines sendable

/-- A child that was spawned just now. -/
def listeningChild : Child :=
  { Child.fresh .standard none ⟨none, 1, [], [], none, false, false, false⟩ with
    spawned := some ⟨1, none, .intact, false, true⟩ }

/-- A text with quotes, a line separator and a character beyond the first 65536 goes to a fresh child, and the
end of the input behind it. -/
theorem commands_arrive_at_fresh_child :
    let commands : List Command := [.eval 1 "\"a\\\u2028\u007f😀\n\"", .endOfInput]
    listeningChild.Listens ∧ (∀ command ∈ commands, command.Sendable) ∧
      (listeningChild.sendAll commands).2.2 = [.ok (), .ok ()] ∧
      Carries (listeningChild.sendAll commands).2.1.written.flatten commands := by
  intro commands
  have listens : listeningChild.Listens := ⟨_, rfl, rfl⟩
  have sendable : ∀ command ∈ commands, command.Sendable :=
    List.forall_mem_cons.mpr ⟨Command.sendable_eval (by decide) _,
      List.forall_mem_singleton.mpr Command.sendable_endOfInput⟩
  exact ⟨listens, sendable, commands_arrive listens sendable⟩

/-- Exactly the numbers below a power of ten can be written. -/
theorem isWritable_iff {number : Int} : isWritable number = true ↔ number.natAbs < 10 ^ digitLimit := by
  rw [isWritable, decide_eq_true_iff]
  exact Nat.length_toDigits_le_iff (by decide) (by decide)

/-- A field under a taken name and an integer that is too long: neither command is written, although the child
listens. -/
theorem commands_refused :
    let named : Command := ⟨"eval", [("self", .int 1)]⟩
    let long : Command := .eval (10 ^ digitLimit) ""
    listeningChild.Listens ∧
      listeningChild.send named = (listeningChild, .none, .error (.nameTaken "self")) ∧
      listeningChild.send long = (listeningChild, .none, .error (.numeral .unwritable)) := by
  intro named long
  refine ⟨⟨_, rfl, rfl⟩, rfl, ?_⟩
  have unwritable : ¬ long.toJson.isWritten = true := by
    intro written
    simp only [long, Command.eval, Command.toJson, Json.isWritten, Json.areWrittenMembers, Bool.true_and,
      Bool.and_true, isWritable_iff, Int.natAbs_pow, Int.reduceAbs, Nat.lt_irrefl] at written
  have fault : long.fault? = some .unwritable := if_neg unwritable
  have unnamed : long.takenName? = none := rfl
  have unencoded : long.encode = .error .unwritable := by
    rw [Command.encode, fault]
  rw [Child.send, unnamed, unencoded]
  rfl

end Marginalia

import Marginalia.Proofs.Preparation.LineDelta
import Marginalia.Proofs.Run.Protocol
import Marginalia.Proofs.Text.Lines

/-! # Feeding over a pipe that breaks
A pipe has room for some more commands and then accepts none (`Pipe.room`). Whatever the room is, feeding a
document delivers the first of its commands in order (`Run.feed_delivers_prefix`): the evaluations of its
logical lines and then the end of the input, cut off where the pipe broke. Only a document whose lines are all
accepted moves the run on, and then the next line is the one behind the document, so a text that is numbered
from there goes on with it (`planLines_append`). A marker that is too long and a line whose number cannot be
written break feeding off. -/

namespace Marginalia

open Text Marker

/-! ## The room of a pipe -/

namespace Pipe

variable {α β : Type}

/-- How many more commands are accepted; any number if none is given. -/
def room (pipe : Pipe) : Option Nat := pipe.capacity.map (· - pipe.accepted.length)

/-- The first of some things, as many as the pipe has room for. -/
def admitted (pipe : Pipe) (things : List α) : List α :=
  match pipe.room with
  | none => things
  | some room => things.take room

/-- The pipe after it accepted some more commands. -/
def accepting (pipe : Pipe) (commands : List Command) : Pipe :=
  { pipe with accepted := pipe.accepted ++ commands }

/-- A pipe is open exactly if it has room. -/
theorem isOpen_iff (pipe : Pipe) : pipe.isOpen = true ↔ pipe.room ≠ some 0 := by
  rw [isOpen, room]
  cases pipe.capacity with
  | none => simp
  | some capacity =>
    rw [decide_eq_true_iff, Option.map_some, ne_eq, Option.some.injEq]
    omega

/-- Every command takes room for one. -/
theorem room_accepting (pipe : Pipe) (commands : List Command) :
    (pipe.accepting commands).room = pipe.room.map (· - commands.length) := by
  rw [room, room, accepting, Option.map_map]
  congr 1
  funext capacity
  rw [List.length_append, Function.comp_apply, Nat.sub_sub]

@[simp] theorem admitted_nil (pipe : Pipe) : pipe.admitted ([] : List α) = [] := by
  rw [admitted]
  split
  · rfl
  · exact List.take_nil

theorem admitted_isPrefix (pipe : Pipe) (things : List α) : pipe.admitted things <+: things := by
  rw [admitted]
  split
  · exact List.prefix_rfl
  · exact List.take_prefix _ _

theorem admitted_map (pipe : Pipe) (change : α → β) (things : List α) :
    pipe.admitted (things.map change) = (pipe.admitted things).map change := by
  rw [admitted, admitted]
  split
  · rfl
  · exact (List.map_take ..).symm

/-- A closed pipe admits nothing. -/
theorem admitted_of_not_isOpen {pipe : Pipe} (refuses : pipe.isOpen = false) (things : List α) :
    pipe.admitted things = [] := by
  by_cases full : pipe.room = some 0
  · rw [admitted, full]
    exact List.take_zero
  · rw [(isOpen_iff pipe).mpr full] at refuses
    cases refuses

/-- What is admitted of things in front of others: all of them and then some of the others, or some of them
alone. -/
theorem admitted_append (pipe : Pipe) (commands : List Command) {things : List α} (others : List α)
    (same : commands.length = things.length) :
    pipe.admitted (things ++ others) =
      if (pipe.admitted things).length = things.length then things ++ (pipe.accepting commands).admitted others
      else pipe.admitted things := by
  simp only [admitted, room_accepting, same]
  cases pipe.room with
  | none => simp
  | some room =>
    by_cases fits : things.length ≤ room
    · simp [List.take_append, List.take_of_length_le fits]
    · have short : room - things.length = 0 := by omega
      have fewer : min room things.length ≠ things.length := by omega
      simp [List.take_append, short, fewer]

/-- An open pipe admits the first thing, and then what it admits after one more command. -/
theorem admitted_cons_of_isOpen {pipe : Pipe} (accepts : pipe.isOpen = true) (command : Command) (thing : α)
    (things : List α) :
    pipe.admitted (thing :: things) = thing :: (pipe.accepting [command]).admitted things := by
  have some := (isOpen_iff pipe).mp accepts
  simp only [admitted, room_accepting]
  cases isRoom : pipe.room with
  | none => rfl
  | some room =>
    cases room with
    | zero => exact absurd isRoom some
    | succ room => rfl

end Pipe

/-! ## Numbering on -/

/-- The physical line behind some lines that are numbered on from a physical line. -/
def lineAfter (line : Int) (codes : List (List Char)) : Int :=
  line + codes.length + total (codes.map deltaSum)

/-- Lines in front of others are numbered first, and the others go on from the line behind them. -/
theorem numberLines_append (line : Int) (codes others : List (List Char)) :
    numberLines line (codes ++ others) = numberLines line codes ++ numberLines (lineAfter line codes) others := by
  induction codes generalizing line with
  | nil => simp [numberLines, lineAfter]
  | cons code codes ih =>
    have next : lineAfter (line + 1 + deltaSum code) codes = lineAfter line (code :: codes) := by
      simp only [lineAfter, List.length_cons, List.map_cons, total_cons]
      omega
    rw [List.cons_append, numberLines, numberLines, ih, next, List.cons_append]

/-- The line behind the last of some numbered lines. -/
theorem next_getLast?_numberLines (line : Int) (codes : List (List Char)) :
    ((numberLines line codes).getLast?.map LogicalLine.next).getD line = lineAfter line codes := by
  induction codes generalizing line with
  | nil => simp [numberLines, lineAfter]
  | cons code codes ih =>
    have last := ih (line + 1 + deltaSum code)
    rw [numberLines, List.getLast?_cons, Option.map_some, Option.getD_some]
    cases others : (numberLines (line + 1 + deltaSum code) codes).getLast? with
    | none =>
      rw [others] at last
      simp [LogicalLine.next, lineAfter] at last ⊢
      omega
    | some logical =>
      rw [others] at last
      simp [lineAfter] at last ⊢
      omega

/-- The line behind a document, by its breaks and its markers. -/
theorem lineAfter_physicalLines (line : Int) (code : List Char) :
    lineAfter line (physicalLines code) = line + (physicalLines code).length + deltaSum code := by
  rw [lineAfter, deltaSum_eq_total]

/-- A text behind a break goes on with the lines of a document, numbered from the line behind it. -/
theorem planLines_append {code behind more : List Char}
    (apart : code.getLast? = some '\r' → behind.head? ≠ some '\n')
    (breaks : physicalLines behind = [] :: physicalLines more) (line : Int) :
    planLines (code ++ behind) line =
      planLines code line ++ planLines more (line + (physicalLines code).length + deltaSum code) := by
  rw [planLines, physicalLines_append apart breaks, numberLines_append, lineAfter_physicalLines]
  rfl

/-! ## Where feeding breaks off -/

/-- The first of some lines, up to the one whose number cannot be written. -/
def writableLines (lines : List LogicalLine) : List LogicalLine := lines.takeWhile (isWritable ·.line)

theorem writableLines_isPrefix (lines : List LogicalLine) : writableLines lines <+: lines :=
  List.takeWhile_prefix _

/-- Where feeding a document over a pipe breaks off, numbered from a line: a marker is too long, or the pipe has
room for all lines before one that cannot be written. -/
def Pipe.BreaksOff (pipe : Pipe) (code : List Char) (line : Int) : Prop :=
  (longDelta? code).isSome = true ∨
    (pipe.admitted (writableLines (planLines code line))).length = (writableLines (planLines code line)).length ∧
      writableLines (planLines code line) ≠ planLines code line

namespace Run

/-! ## Delivering -/

/-- The command that feeds a line can be written exactly if the number of the line can. -/
theorem fault?_command (logical : LogicalLine) :
    logical.command.fault? = if isWritable logical.line then none else some .unwritable := by
  have written : logical.command.toJson.isWritten = isWritable logical.line := by
    simp [LogicalLine.command, Command.eval, Command.toJson, Json.isWritten, Json.areWrittenMembers]
  rw [Command.fault?, written]

/-- **Sending logical lines.** The host accepts the first of them, as many as the pipe has room for; the
number of the next line is the one behind the last line that was tried, which is the one after those that were
accepted, if there is one. Sending breaks off where the line that is tried cannot be written. -/
theorem sendLines_eq (run : Run) (lines : List LogicalLine) :
    let writable := writableLines lines
    let sent := run.pipe.admitted writable
    run.sendLines lines =
      (run.afterSending (sent.map LogicalLine.command)
        (((lines.take (sent.length + 1)).getLast?.map LogicalLine.next).getD run.nextLine),
        if sent.length = writable.length ∧ writable ≠ lines then .error .unwritable
        else .ok ⟨sent.length, lines[sent.length]?.map (·.line)⟩) := by
  induction lines generalizing run with
  | nil => simp [sendLines, writableLines]
  | cons logical lines ih =>
    have fault := fault?_command logical
    cases writes : isWritable logical.line with
    | false =>
      have nothing : writableLines (logical :: lines) = [] := List.takeWhile_cons_of_neg (by simp [writes])
      rw [writes] at fault
      rw [nothing, sendLines_cons_of_fault run logical lines fault]
      simp
    | true =>
      have more : writableLines (logical :: lines) = logical :: writableLines lines :=
        List.takeWhile_cons_of_pos writes
      rw [writes] at fault
      cases accepts : run.pipe.isOpen with
      | false =>
        simp [more, Pipe.admitted_of_not_isOpen accepts, sendLines_cons_of_not_isOpen run logical lines fault accepts]
      | true =>
        have after : (run.afterSending [logical.command] logical.next).pipe =
          run.pipe.accepting [logical.command] := rfl
        have first := Pipe.admitted_cons_of_isOpen accepts logical.command logical (writableLines lines)
        rw [sendLines_cons_of_isOpen run logical lines fault accepts]
        simp only [more, first, ih, after]
        refine Prod.ext ?_ ?_
        · simp [List.getLast?_cons]
        · simp only [List.length_cons, Nat.add_right_cancel_iff, ne_eq, List.cons.injEq, true_and]
          split <;> simp [Except.map]

/-- The end of the input is accepted if there is room for it; if it is lost, that is reported. -/
theorem sendEnd_eq (run : Run) :
    run.sendEnd =
      (run.afterSending (run.pipe.admitted [Command.endOfInput]) run.nextLine,
        .ofLogs (if run.pipe.isOpen then []
          else [run.log .warning ("end of input not delivered: " ++ Pipe.closedText)])) := by
  cases accepts : run.pipe.isOpen with
  | false =>
    rw [Pipe.admitted_of_not_isOpen accepts]
    simp [sendEnd, Pipe.send?, accepts]
  | true =>
    rw [Pipe.admitted_cons_of_isOpen accepts Command.endOfInput, Pipe.admitted_nil, sendEnd, Pipe.send?,
      if_pos accepts]
    rfl

/-- Once all lines are accepted a running run goes on to draining. -/
theorem conclude_of_running {run : Run} (running : run.state = .running) (count : Nat) :
    run.conclude ⟨count, none⟩ =
      ({ run with state := .draining },
        .ofLogs [run.log .debug "running -> draining", run.log .debug s!"fed {count} logical lines"]) := by
  rw [conclude, goFrom, if_pos running]
  rfl

section Planned

variable {run : Run} {code : List Char}

/-- A document with a marker that is too long has no plan. -/
theorem planLines?_of_longDelta {digits : List Char} (long : longDelta? code = some digits) (line : Int) :
    planLines? code line = .error (.unreadable digits.length) := by
  rw [planLines?_eq, long]

/-- A document with a marker that is too long is not fed at all. -/
theorem feed_of_longDelta {digits : List Char} (running : run.state = .running)
    (long : longDelta? code = some digits) :
    run.feed code = (run, .none, .error (.numeral (.unreadable digits.length))) :=
  feed_of_broken (deliver_of_unplanned running (planLines?_of_longDelta long run.nextLine))

/-- A document without such a marker has its plan. -/
theorem planLines?_of_short (short : longDelta? code = none) (line : Int) :
    planLines? code line = .ok (planLines code line) := by
  rw [planLines?_eq, short]

/-- What is sent where not all lines are: the number of the next line is the one behind the line that was
tried. -/
theorem sendLines_of_next {lines : List LogicalLine} {logical : LogicalLine}
    (next : lines[(run.pipe.admitted (writableLines lines)).length]? = some logical) :
    let sent := run.pipe.admitted (writableLines lines)
    run.sendLines lines =
      (run.afterSending (sent.map LogicalLine.command) logical.next,
        if sent.length = (writableLines lines).length then .error .unwritable
        else .ok ⟨sent.length, some logical.line⟩) := by
  intro sent
  have tried : (lines.take (sent.length + 1)).getLast? = some logical := by
    rw [List.getLast?_take, if_neg (Nat.succ_ne_zero _), Nat.add_sub_cancel, next, Option.some_or]
  -- A line is left over, so if all writable lines are sent they are not all lines.
  have broken : (sent.length = (writableLines lines).length ∧ writableLines lines ≠ lines) ↔
      sent.length = (writableLines lines).length := by
    refine and_iff_left_of_imp fun all same => ?_
    rw [all, same, List.getElem?_eq_none (Nat.le_refl _)] at next
    cases next
  have result := run.sendLines_eq lines
  simp only [sent] at tried broken
  simp only [broken, next, tried, Option.map_some, Option.getD_some] at result
  exact result

/-- Where a line is not accepted feeding stops, and the run stays as it is but for what was accepted; a line that
cannot be written breaks it off. -/
theorem feed_of_next {logical : LogicalLine} (running : run.state = .running) (short : longDelta? code = none)
    (next : (planLines code run.nextLine)[
      (run.pipe.admitted (writableLines (planLines code run.nextLine))).length]? = some logical) :
    let writable := writableLines (planLines code run.nextLine)
    let sent := run.pipe.admitted writable
    run.feed code =
      (run.afterSending (sent.map LogicalLine.command) logical.next,
        if sent.length = writable.length then .none
        else .ofLogs [run.log .warning (s!"stopped feeding at line {logical.line}: " ++ Pipe.closedText)],
        if sent.length = writable.length then .error (.numeral .unwritable) else .ok sent.length) := by
  intro writable sent
  have planned := planLines?_of_short short run.nextLine
  have sending : run.sendLines (planLines code run.nextLine) =
      (run.afterSending (sent.map LogicalLine.command) logical.next,
        if sent.length = writable.length then .error .unwritable
        else .ok ⟨sent.length, some logical.line⟩) := sendLines_of_next next
  by_cases all : sent.length = writable.length
  · rw [if_pos all, if_pos all]
    rw [if_pos all] at sending
    refine feed_of_broken ?_
    simp only [deliver, if_pos running, planned, sending]
  · rw [if_neg all, if_neg all]
    rw [if_neg all] at sending
    have delivered : run.deliver code =
        (run.afterSending (sent.map LogicalLine.command) logical.next,
          .ofLogs [run.log .warning (s!"stopped feeding at line {logical.line}: " ++ Pipe.closedText)],
          .ok ⟨sent.length, some logical.line⟩) := by
      simp only [deliver, if_pos running, planned, sending]
      rfl
    rw [feed_of_delivered delivered]
    rfl

/-- Lines that are all accepted are followed by the end of the input, and the run goes on to draining whether
or not that is accepted too. -/
theorem feed_of_complete (running : run.state = .running) (short : longDelta? code = none)
    (writes : writableLines (planLines code run.nextLine) = planLines code run.nextLine)
    (all : (run.pipe.admitted (planLines code run.nextLine)).length = (planLines code run.nextLine).length) :
    let plan := planLines code run.nextLine
    let after := run.pipe.accepting (plan.map LogicalLine.command)
    run.feed code =
      ({ run.afterSending (plan.map LogicalLine.command ++ after.admitted [Command.endOfInput])
            (lineAfter run.nextLine (physicalLines code)) with state := .draining },
        .ofLogs ((if after.isOpen then []
            else [run.log .warning ("end of input not delivered: " ++ Pipe.closedText)]) ++
          [run.log .debug "running -> draining", run.log .debug s!"fed {plan.length} logical lines"]),
        .ok plan.length) := by
  intro plan after
  have planned := planLines?_of_short short run.nextLine
  have whole : run.pipe.admitted plan = plan := (run.pipe.admitted_isPrefix plan).eq_of_length all
  have last : (plan.getLast?.map LogicalLine.next).getD run.nextLine =
      lineAfter run.nextLine (physicalLines code) := next_getLast?_numberLines run.nextLine (physicalLines code)
  have lines : run.sendLines plan =
      (run.afterSending (plan.map LogicalLine.command) (lineAfter run.nextLine (physicalLines code)),
        .ok ⟨plan.length, none⟩) := by
    have sent := run.sendLines_eq plan
    simp only [show writableLines plan = plan from writes, whole, ne_eq, not_true_eq_false, and_false, if_false,
      List.getElem?_eq_none (Nat.le_refl _), Option.map_none, List.take_of_length_le (Nat.le_succ _), last] at sent
    exact sent
  let fed := run.afterSending (plan.map LogicalLine.command ++ after.admitted [Command.endOfInput])
    (lineAfter run.nextLine (physicalLines code))
  have delivered : run.deliver code =
      (fed, .ofLogs (if after.isOpen then []
        else [run.log .warning ("end of input not delivered: " ++ Pipe.closedText)]), .ok ⟨plan.length, none⟩) := by
    simp only [deliver, if_pos running, planned, lines, plan, sendEnd_eq, afterSending_afterSending,
      nextLine_afterSending]
    rfl
  have live : fed.state = .running := running
  rw [feed_of_delivered delivered]
  dsimp only
  rw [conclude_of_running live]
  rfl

/-- A document on which feeding does not break off is delivered, as far as the pipe has room. -/
theorem exists_delivery (running : run.state = .running) (goesOn : ¬ run.pipe.BreaksOff code run.nextLine) :
    ∃ delivery, (run.deliver code).2.2 = .ok delivery := by
  obtain ⟨short, writes⟩ := not_or.mp goesOn
  have planned := planLines?_of_short (Option.not_isSome_iff_eq_none.mp short) run.nextLine
  have sending := run.sendLines_eq (planLines code run.nextLine)
  simp only [ne_eq, if_neg writes] at sending
  simp only [deliver, if_pos running, planned, sending]
  split <;> exact ⟨_, rfl⟩

/-- Any other document is not delivered to its end. -/
theorem exists_fault (running : run.state = .running) (breaks : run.pipe.BreaksOff code run.nextLine) :
    ∃ fault, (run.deliver code).2.2 = .error (.numeral fault) := by
  cases long : longDelta? code with
  | some digits =>
    rw [deliver_of_unplanned running (planLines?_of_longDelta long run.nextLine)]
    exact ⟨_, rfl⟩
  | none =>
    have writes := breaks.resolve_left (by simp [long])
    have planned := planLines?_of_short long run.nextLine
    have sending := run.sendLines_eq (planLines code run.nextLine)
    simp only [ne_eq, if_pos writes] at sending
    simp only [deliver, if_pos running, planned, sending]
    exact ⟨_, rfl⟩

end Planned

/-! ## What is delivered -/

/-- The evaluations among some commands. -/
def evalCount (commands : List Command) : Nat := commands.countP (·.name == "eval")

theorem evalCount_append (first second : List Command) :
    evalCount (first ++ second) = evalCount first + evalCount second := List.countP_append

theorem evalCount_command (lines : List LogicalLine) : evalCount (lines.map LogicalLine.command) = lines.length := by
  rw [evalCount, List.countP_map, List.countP_eq_length]
  exact fun _ _ => rfl

/-- As many evaluations are admitted as there are lines that have room, whatever comes after them. -/
theorem evalCount_admitted (pipe : Pipe) (lines : List LogicalLine) {last : List Command}
    (noEval : evalCount last = 0) :
    evalCount (pipe.admitted (lines.map LogicalLine.command ++ last)) = (pipe.admitted lines).length := by
  have none (pipe : Pipe) : evalCount (pipe.admitted last) = 0 := by
    have inside : evalCount (pipe.admitted last) ≤ evalCount last := (pipe.admitted_isPrefix last).sublist.countP_le
    exact Nat.le_zero.mp (noEval ▸ inside)
  rw [pipe.admitted_append _ _ rfl, Pipe.admitted_map]
  split
  · next all =>
    rw [List.length_map, List.length_map] at all
    rw [evalCount_append, evalCount_command, none, all, Nat.add_zero]
  · rw [evalCount_command]

/-- **Feeding delivers a prefix**, whatever room the pipe has, unless a marker of the document is too long: then
nothing is fed, and feeding breaks off. The commands that the host accepts are the first of the evaluations of
the document's logical lines with the end of the input behind them, up to the first line whose number cannot be
written, and the number of the evaluations among them is the answer; feeding a running run breaks off only where
such a line is tried. If all lines were accepted the run drains, even if the end of the input was lost (which is
reported), and a text behind the next line break is numbered on from the next line of the run. Otherwise the run
stays as it is, it only reports the line at which it stopped, and it does not try to send the end of the input.
-/
theorem feed_delivers_prefix (run : Run) (code : List Char) (running : run.state = .running) :
    let plan := planLines code run.nextLine
    let writable := writableLines plan
    let commands := writable.map (fun logical => Command.eval logical.line (String.ofList logical.code)) ++
      (if writable = plan then [Command.endOfInput] else [])
    let delivered := run.pipe.admitted commands
    let evals := evalCount delivered
    let fed := (run.feed code).1
    (∀ digits, longDelta? code = some digits →
      run.feed code = (run, .none, .error (.numeral (.unreadable digits.length)))) ∧
    (longDelta? code = none →
      fed.pipe.accepted = run.pipe.accepted ++ delivered ∧
      (run.feed code).2.2 =
        (if evals = writable.length ∧ writable ≠ plan then .error (.numeral .unwritable) else .ok evals) ∧
      (fed.state = .draining ↔ evals = plan.length) ∧
      (evals = plan.length →
        fed.nextLine = run.nextLine + (physicalLines code).length + deltaSum code ∧
        (∀ more, planLines (code ++ '\r' :: '\n' :: more) run.nextLine = plan ++ planLines more fed.nextLine ∧
          (code.getLast? ≠ some '\r' →
            planLines (code ++ '\n' :: more) run.nextLine = plan ++ planLines more fed.nextLine)) ∧
        (run.feed code).2.1 =
          .ofLogs ((if delivered.length = commands.length then []
              else [run.log .warning ("end of input not delivered: " ++ Pipe.closedText)]) ++
            [run.log .debug "running -> draining", run.log .debug s!"fed {evals} logical lines"])) ∧
      (evals ≠ plan.length → fed.state = .running ∧
        ∃ logical, plan[evals]? = some logical ∧ fed.nextLine = logical.next ∧
          (run.feed code).2.1 =
            (if evals = writable.length then .none
            else .ofLogs [run.log .warning (s!"stopped feeding at line {logical.line}: " ++ Pipe.closedText)]))) := by
  intro plan writable commands delivered evals fed
  refine ⟨fun digits => feed_of_longDelta running, fun short => ?_⟩
  have noEval : evalCount (if writable = plan then [Command.endOfInput] else []) = 0 := by
    split <;> rfl
  have counted : evals = (run.pipe.admitted writable).length := evalCount_admitted run.pipe writable noEval
  have parts : delivered = _ := run.pipe.admitted_append (writable.map LogicalLine.command)
    (if writable = plan then [Command.endOfInput] else []) rfl
  rw [Pipe.admitted_map, List.length_map, List.length_map, ← counted] at parts
  have within : evals ≤ writable.length := counted ▸ (run.pipe.admitted_isPrefix writable).length_le
  have part := writableLines_isPrefix plan
  -- Either all lines are accepted, and then the end of the input is tried, or one of them is the last that is.
  by_cases all : evals = plan.length
  · have writes : writable = plan := part.eq_of_length (Nat.le_antisymm part.length_le (all ▸ within))
    have whole : (run.pipe.admitted plan).length = plan.length := by
      rw [← all, counted, writes]
    have result := feed_of_complete running short writes whole
    have sent : evals = writable.length := all.trans (congrArg List.length writes.symm)
    rw [if_pos sent, if_pos writes, writes] at parts
    have next : fed.nextLine = run.nextLine + (physicalLines code).length + deltaSum code := by
      rw [← lineAfter_physicalLines]
      exact congrArg (·.1.nextLine) result
    refine ⟨?_, ?_, ?_, fun _ => ⟨next, fun more => ⟨?_, fun plain => ?_⟩, ?_⟩, fun fewer => absurd all fewer⟩
    · rw [parts]
      exact congrArg (·.1.pipe.accepted) result
    · rw [if_neg fun broken => broken.2 writes, all]
      exact congrArg (·.2.2) result
    · exact iff_of_true (congrArg (·.1.state) result) all
    · rw [next]
      exact planLines_append (fun _ => by simp) rfl run.nextLine
    · rw [next]
      exact planLines_append (fun carriage => absurd carriage plain) rfl run.nextLine
    · have ended : delivered.length = commands.length ↔
          (run.pipe.accepting (plan.map LogicalLine.command)).isOpen = true := by
        have length : commands.length = plan.length + 1 := by
          simp [commands, writes]
        rw [parts, length, List.length_append, List.length_map, Nat.add_left_cancel_iff]
        cases accepts : (run.pipe.accepting (plan.map LogicalLine.command)).isOpen with
        | false => simp [Pipe.admitted_of_not_isOpen accepts]
        | true => simp [Pipe.admitted_cons_of_isOpen accepts Command.endOfInput]
      rw [result, all]
      simp only [ended]
      rfl
  · have fewer : evals < plan.length := Nat.lt_of_le_of_ne (Nat.le_trans within part.length_le) all
    obtain ⟨logical, tried⟩ : ∃ logical, plan[evals]? = some logical := ⟨_, List.getElem?_eq_getElem fewer⟩
    have result := feed_of_next running short ((congrArg (plan[·]?) counted).symm.trans tried)
    have state : fed.state = .running := (congrArg (·.1.state) result).trans running
    -- Nothing is sent behind the last writable line, because a line is left over.
    have lines : delivered = (run.pipe.admitted writable).map LogicalLine.command := by
      rw [parts]
      split
      · next sent =>
        have others : writable ≠ plan := fun same => all (sent.trans (congrArg List.length same))
        rw [if_neg others, Pipe.admitted_nil, List.append_nil,
          (run.pipe.admitted_isPrefix writable).eq_of_length (counted.symm.trans sent)]
        rfl
      · rfl
    have broken : (evals = writable.length ∧ writable ≠ plan) ↔
        (run.pipe.admitted writable).length = writable.length := by
      rw [← counted]
      exact and_iff_left_of_imp fun sent same => all (sent.trans (congrArg List.length same))
    refine ⟨?_, ?_, ?_, fun same => absurd same all, fun _ => ⟨state, logical, tried, ?_, ?_⟩⟩
    · rw [lines]
      exact congrArg (·.1.pipe.accepted) result
    · simp only [broken]
      rw [counted]
      exact congrArg (·.2.2) result
    · rw [state]
      exact iff_of_false (by simp) all
    · exact congrArg (·.1.nextLine) result
    · simp only [counted]
      exact congrArg (·.2.1) result

/-- A pipe that breaks after two commands: a folded line and the next one are accepted, and the run would go on
behind the line that was not. -/
theorem feed_delivers_prefix_of_two :
    let run : Run := { Run.fresh 7 true (.fresh none (some 2)) with state := .running }
    let code := "a /*`2`*/.b()\r\nc\nd".toList
    run.state = .running ∧ longDelta? code = none ∧
      (run.feed code).1.pipe.accepted = [.eval 1 "a /*`2`*/.b()", .eval 4 "c"] ∧ (run.feed code).2.2 = .ok 2 ∧
      (run.feed code).1.state = .running ∧ (run.feed code).1.nextLine = 6 := by
  intro run code
  have plan : planLines code run.nextLine =
      [⟨1, "a /*`2`*/.b()".toList, 2⟩, ⟨4, "c".toList, 0⟩, ⟨5, "d".toList, 0⟩] := by decide +kernel
  have short : longDelta? code = none := by decide +kernel
  obtain ⟨accepted, answer, -, -, stopped⟩ :=
    ( feed_delivers_prefix run code rfl).2 short
  rw [plan] at accepted answer stopped
  obtain ⟨state, logical, tried, next, -⟩ := stopped (by decide)
  obtain rfl : ⟨5, "d".toList, 0⟩ = logical := Option.some.inj tried
  exact ⟨rfl, short, accepted, answer, state, next⟩

/-- A document with a marker whose number has zeros in front is not fed: feeding breaks off before the first line,
and the host accepts nothing, although its pipe has room. -/
theorem feed_breaks_off_at_zeros :
    let run : Run := { Run.fresh 7 true (.fresh none none) with state := .running }
    run.feed longDelta = (run, .none, .error (.numeral (.unreadable (digitLimit + 1)))) ∧
      (run.feed longDelta).1.pipe.accepted = [] := by
  intro run
  have running : run.state = .running := rfl
  have result := feed_of_longDelta running longDelta?_longDelta
  rw [length_longOne] at result
  refine ⟨result, ?_⟩
  rw [result]
  rfl

end Run

end Marginalia

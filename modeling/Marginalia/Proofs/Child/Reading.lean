import Marginalia.Proofs.Child.Steps

/-! # Reading a child
The reader of a child's output works as a filter: whatever comes, the receiver of messages is called with the
messages of the lines that say something other than that the child is ready, in the order of the lines, and the
receiver of the end once and last. Lines without a message and receivers that fail leave no trace in what is said
here (`child_read_in_order`). -/

namespace Marginalia

open Text

/-- The messages that some steps bring. -/
def messagesIn (history : List ChildStep) : List Message := history.filterMap ChildStep.message?

/-- The calls for some messages: those that say that the child is ready are not handed on. -/
def callsFor (messages : List Message) : List ChildCall := (messages.filter (!·.isReady)).map .message

theorem callsFor_append (first second : List Message) :
    callsFor (first ++ second) = callsFor first ++ callsFor second := by
  rw [callsFor, List.filter_append, List.map_append]
  rfl

@[simp] theorem messagesIn_nil : messagesIn [] = [] := rfl

theorem messagesIn_cons (step : ChildStep) (history : List ChildStep) :
    messagesIn (step :: history) = step.message?.toList ++ messagesIn history := by
  rw [messagesIn, List.filterMap_cons]
  cases step.message? <;> rfl

namespace Child

/-- The steps that come while the output of a child is read: all up to the one at which the reader comes to its
end. -/
def whileReading : Child → List ChildStep → List ChildStep
  | _, [] => []
  | child, step :: others =>
    let next := (child.step step).1
    if next.reads then step :: next.whileReading others else []

theorem whileReading_cons_of_reads {child : Child} {step : ChildStep} (goes : (child.step step).1.reads = true)
    (others : List ChildStep) :
    child.whileReading (step :: others) = step :: (child.step step).1.whileReading others := by
  rw [whileReading]
  exact if_pos goes

theorem whileReading_cons_of_ends {child : Child} {step : ChildStep} (ends : (child.step step).1.reads = false)
    (others : List ChildStep) : child.whileReading (step :: others) = [] := by
  rw [whileReading]
  exact if_neg (Bool.eq_false_iff.mp ends)

/-! ## One step -/

section Step

variable {child : Child} {step : ChildStep}

/-- Reading goes on after a line. -/
theorem reads_step_of_line (child : Child) (fails : Message → Bool) {text : List Char} (readable : Readable text) :
    (child.step (.line fails text)).1.reads = child.reads := by
  obtain ⟨logs, same⟩ := readLine_eq child fails readable
  rw [Child.step, same]
  split <;> rfl

/-- The step at which the reader comes to the end brings no message. -/
theorem message?_of_ends (readable : step.IsReadable) (reading : child.reads = true)
    (ends : (child.step step).1.reads = false) : step.message? = none := by
  cases step with
  | line fails text =>
    rw [reads_step_of_line child fails readable, reading] at ends
    cases ends
  | trouble | send | breakInput | die | notice | terminate => rfl

/-- While the output is read, a step calls for its message. -/
theorem calls_step_of_reads (there : child.spawned.isSome = true) (readable : step.IsReadable)
    (reading : child.reads = true) (goes : (child.step step).1.reads = true) :
    (child.step step).2.calls = callsFor step.message?.toList := by
  have brings : child.heard step = step.message? := if_pos reading
  have silent : (child.step step).2.exits = [] := by
    rcases (lives there readable).reported with ⟨-, silent⟩ | ⟨-, ends, -⟩
    · exact silent
    · rw [goes] at ends
      cases ends
  rw [ChildReport.calls, (hears there readable).messages, brings, silent, List.map_nil, List.append_nil]
  rfl

/-- At its end, the output calls for the end alone. -/
theorem calls_step_of_ends (there : child.spawned.isSome = true) (readable : step.IsReadable)
    (reading : child.reads = true) (ends : (child.step step).1.reads = false) :
    ∃ code requested, (child.step step).2.calls = [.exit code requested] := by
  have brings : child.heard step = none := (if_pos reading).trans (message?_of_ends readable reading ends)
  rcases (lives there readable).reported with ⟨same, -⟩ | ⟨-, -, code, -, exits⟩
  · rw [ends, reading] at same
    cases same
  · refine ⟨code, (child.step step).1.exitRequested, ?_⟩
    rw [ChildReport.calls, (hears there readable).messages, brings, exits]
    rfl

/-- After the end of the output, a step calls nothing and notes nothing. -/
theorem step_of_not_reads (there : child.spawned.isSome = true) (readable : step.IsReadable)
    (gone : child.reads = false) :
    (child.step step).1.reads = false ∧ (child.step step).2.calls = [] ∧
      (child.step step).1.version = child.version ∧ (child.step step).1.ready = child.ready := by
  have hears := hears there readable
  have brings : child.heard step = none := if_neg (Bool.eq_false_iff.mp gone)
  rcases (lives there readable).reported with ⟨same, silent⟩ | ⟨reading, -⟩
  · refine ⟨same.trans gone, ?_, ?_, ?_⟩
    · rw [ChildReport.calls, hears.messages, brings, silent]
      rfl
    · rw [hears.version, brings, note_none]
    · rw [hears.ready, brings, note_none]
  · rw [gone] at reading
    cases reading

end Step

/-! ## All steps -/

/-- A spawned child stays spawned. -/
theorem isSome_spawned_steps {child : Child} {history : List ChildStep} (there : child.spawned.isSome = true)
    (readable : ∀ step ∈ history, step.IsReadable) : (child.steps history).1.spawned.isSome = true := by
  induction history generalizing child with
  | nil => exact there
  | cons step history ih =>
    obtain ⟨first, others⟩ := List.forall_mem_cons.mp readable
    exact ih (lives there first).spawned others

/-- After the end of the output, nothing is called and noted any more. -/
theorem steps_of_not_reads {child : Child} {history : List ChildStep} (there : child.spawned.isSome = true)
    (readable : ∀ step ∈ history, step.IsReadable) (gone : child.reads = false) :
    (child.steps history).1.reads = false ∧ (child.steps history).2.flatMap ChildReport.calls = [] ∧
      (child.steps history).1.version = child.version ∧ (child.steps history).1.ready = child.ready := by
  induction history generalizing child with
  | nil => exact ⟨gone, rfl, rfl, rfl⟩
  | cons step history ih =>
    obtain ⟨first, others⟩ := List.forall_mem_cons.mp readable
    obtain ⟨still, silent, version, ready⟩ := step_of_not_reads there first gone
    obtain ⟨last, quiet, sameVersion, sameReady⟩ := ih (lives there first).spawned others still
    rw [steps_cons]
    refine ⟨last, ?_, sameVersion.trans version, sameReady.trans ready⟩
    rw [List.flatMap_cons, silent, quiet, List.append_nil]

/-- What is called and noted of a child whose output is read. -/
structure Told (child : Child) (history : List ChildStep) : Prop where
  /-- The receiver of messages is called with those that came while the output was read, and then the receiver of
  the end, if the reader came to it. -/
  calls : ∃ ending, (child.steps history).2.flatMap ChildReport.calls =
    callsFor (messagesIn (child.whileReading history)) ++ ending ∧
      if (child.steps history).1.reads then ending = [] else ∃ code requested, ending = [.exit code requested]
  /-- The version is that of the last message that the child is ready. -/
  version : (child.steps history).1.version =
    (((messagesIn (child.whileReading history)).filter (·.isReady)).getLast?.map (·.get "node")).getD child.version
  /-- The child is ready if one of the messages says so. -/
  ready : (child.steps history).1.ready =
    (child.ready || (messagesIn (child.whileReading history)).any (·.isReady))

/-- While the reader goes on, the message of a step comes in front of those behind it. -/
theorem Told.cons {child : Child} {step : ChildStep} {history : List ChildStep}
    (later : (child.step step).1.Told history) (there : child.spawned.isSome = true) (readable : step.IsReadable)
    (reading : child.reads = true) (goes : (child.step step).1.reads = true) : child.Told (step :: history) := by
  have read := whileReading_cons_of_reads goes history
  have brings : child.heard step = step.message? := if_pos reading
  have hears := hears there readable
  constructor
  case calls =>
    obtain ⟨ending, called, ends⟩ := later.calls
    refine ⟨ending, ?_, ends⟩
    rw [steps_cons, List.flatMap_cons, calls_step_of_reads there readable reading goes, called, read,
      messagesIn_cons, callsFor_append, List.append_assoc]
  case version =>
    have last : (step.message?.toList.filter (·.isReady)).getLast? = step.message?.filter (·.isReady) := by
      cases step.message? with
      | none => rfl
      | some message => cases ready : message.isReady <;> simp [Option.filter_some, ready]
    rw [steps_cons, later.version, hears.version, brings, read, messagesIn_cons, List.filter_append,
      List.getLast?_append, last]
    -- A later message that the child is ready comes before an earlier one.
    cases ((messagesIn ((child.step step).1.whileReading history)).filter (·.isReady)).getLast? with
    | none => rfl
    | some message => rfl
  case ready =>
    have same : step.message?.toList.any (·.isReady) = step.message?.any (·.isReady) := by
      cases step.message? <;> simp
    rw [steps_cons, later.ready, hears.ready, brings, read, messagesIn_cons, List.any_append, same,
      ← Bool.or_assoc]
    rfl

/-- At the step at which the reader comes to the end, the end is told, and nothing after it. -/
theorem told_of_ends {child : Child} {step : ChildStep} {history : List ChildStep}
    (there : child.spawned.isSome = true) (readable : ∀ other ∈ step :: history, other.IsReadable)
    (reading : child.reads = true) (ends : (child.step step).1.reads = false) : child.Told (step :: history) := by
  obtain ⟨first, others⟩ := List.forall_mem_cons.mp readable
  obtain ⟨code, requested, called⟩ := calls_step_of_ends there first reading ends
  obtain ⟨gone, quiet, version, ready⟩ := steps_of_not_reads (lives there first).spawned others ends
  have read := whileReading_cons_of_ends ends history
  have brings : child.heard step = none := (if_pos reading).trans (message?_of_ends first reading ends)
  have hears := hears there first
  constructor
  case calls =>
    refine ⟨[.exit code requested], ?_, ?_⟩
    · rw [steps_cons, List.flatMap_cons, called, quiet, read]
      rfl
    · rw [steps_cons, gone]
      exact ⟨code, requested, rfl⟩
  case version =>
    rw [steps_cons, version, hears.version, brings, note_none, read]
    rfl
  case ready =>
    rw [steps_cons, ready, hears.ready, brings, note_none, read]
    exact (Bool.or_false _).symm

/-- What is called and noted is what comes while the output is read. -/
theorem told {child : Child} {history : List ChildStep} (there : child.spawned.isSome = true)
    (readable : ∀ step ∈ history, step.IsReadable) (reading : child.reads = true) : child.Told history := by
  induction history generalizing child with
  | nil =>
    refine ⟨⟨[], rfl, ?_⟩, rfl, (Bool.or_false _).symm⟩
    rw [steps_nil, if_pos reading]
  | cons step history ih =>
    cases goes : (child.step step).1.reads with
    | true =>
      obtain ⟨first, others⟩ := List.forall_mem_cons.mp readable
      have later := ih (lives there first).spawned others goes
      exact later.cons there first reading goes
    | false => exact told_of_ends there readable reading goes

/-! ## What is read, and what is kept -/

/-- While the reader has not come to the end of the output, all that came was read. -/
theorem whileReading_of_reads {child : Child} {history : List ChildStep} (there : child.spawned.isSome = true)
    (readable : ∀ step ∈ history, step.IsReadable) (goes : (child.steps history).1.reads = true) :
    child.whileReading history = history := by
  induction history generalizing child with
  | nil => rfl
  | cons step history ih =>
    obtain ⟨first, others⟩ := List.forall_mem_cons.mp readable
    have stays := (lives there first).spawned
    cases next : (child.step step).1.reads with
    | true =>
      rw [whileReading_cons_of_reads next, ih stays others goes]
    | false =>
      rw [steps_cons, (steps_of_not_reads stays others next).1] at goes
      cases goes

/-- The first step that is not read any more is no line. -/
theorem not_line_of_whileReading {child : Child} {history others : List ChildStep} {fails : Message → Bool}
    {text : List Char} (there : child.spawned.isSome = true) (readable : ∀ step ∈ history, step.IsReadable)
    (reading : child.reads = true) : history ≠ child.whileReading history ++ .line fails text :: others := by
  induction history generalizing child with
  | nil => simp
  | cons step history ih =>
    obtain ⟨first, later⟩ := List.forall_mem_cons.mp readable
    cases next : (child.step step).1.reads with
    | true =>
      rw [whileReading_cons_of_reads next, List.cons_append]
      intro same
      exact ih (lives there first).spawned later next (List.cons.inj same).2
    | false =>
      rw [whileReading_cons_of_ends next, List.nil_append]
      intro same
      obtain rfl : step = .line fails text := (List.cons.inj same).1
      rw [reads_step_of_line child fails first, reading] at next
      cases next

/-- Of the last lines and some more, the last are those of all. -/
theorem lastLines_append (lines others : List (List Char)) :
    lastLines (lastLines lines ++ others) = lastLines (lines ++ others) := by
  have kept : lines.length - troubleLimit ≤ lines.length := Nat.sub_le ..
  rw [lastLines, lastLines, lastLines, ← List.drop_append_of_le_length kept, List.drop_drop, List.length_drop,
    List.length_append]
  congr 1
  omega

/-- The last lines about the trouble of a child are kept, whatever else happens. -/
theorem troubleLines_steps {child : Child} {history : List ChildStep} {lines : List (List Char)}
    (there : child.spawned.isSome = true) (readable : ∀ step ∈ history, step.IsReadable)
    (earlier : child.troubleLines = lastLines lines) :
    (child.steps history).1.troubleLines = lastLines (lines ++ history.filterMap ChildStep.trouble?) := by
  induction history generalizing child lines with
  | nil =>
    rw [List.filterMap_nil, List.append_nil]
    exact earlier
  | cons step history ih =>
    obtain ⟨first, others⟩ := List.forall_mem_cons.mp readable
    have troubles := (hears there first).troubles
    rw [steps_cons, List.filterMap_cons]
    cases said : step.trouble? with
    | none =>
      rw [said, keep_none] at troubles
      exact ih (lives there first).spawned others (troubles.trans earlier)
    | some line =>
      have now : (child.step step).1.troubleLines = lastLines (lines ++ [line]) := by
        rw [troubles, said, ← lastLines_append, ← earlier]
        rfl
      rw [ih (lives there first).spawned others now, List.append_assoc, List.singleton_append]

/-- Once a child has ended, the reader comes to the end of its output. -/
theorem reads_notice_die {child : Child} (there : child.spawned.isSome = true) (code : Int) :
    (child.die code).notice.1.reads = false := by
  obtain ⟨spawned, known⟩ := Option.isSome_iff_exists.mp there
  cases reading : spawned.reading <;> simp [die, notice, change, exitCode?, reads, known, reading]

/-- What the reader makes of a child. -/
structure ReadInOrder (child : Child) (history : List ChildStep) : Prop extends Told child history where
  /-- While the reader has not come to the end of the output, all that came was read. -/
  all : (child.steps history).1.reads = true → child.whileReading history = history
  /-- It does not come to the end at a line. -/
  noLine : ∀ fails text others, history ≠ child.whileReading history ++ .line fails text :: others
  /-- It does come to the end once the child has ended. -/
  ends : ∀ code, ((child.steps history).1.die code).notice.1.reads = false
  /-- The last lines about the trouble of the child are kept, in order and without white space at their ends. -/
  troubles : (child.steps history).1.troubleLines = lastLines (history.filterMap ChildStep.trouble?)

end Child

/-- **Reading in order.** Of every child that was spawned, whatever comes from it and happens to it, with lines
that are all read to their ends: the receiver of messages is called with exactly the messages of the lines other
than those that the child is ready, in order, even if it fails on some, and then the receiver of the end once; the
version is the last that was told, and of the lines about its trouble the last are kept. -/
theorem child_read_in_order (settings : Settings) (directory : Option File.Path) (behaviour : ChildBehaviour)
    {history : List ChildStep} (readable : ∀ step ∈ history, step.IsReadable) :
    (Child.fresh settings directory behaviour).opened.ReadInOrder history := by
  let child := (Child.fresh settings directory behaviour).opened
  have there : child.spawned.isSome = true := rfl
  have reading : child.reads = true := rfl
  have nothing : child.troubleLines = Child.lastLines [] := rfl
  have kept := Child.troubleLines_steps there readable nothing
  rw [List.nil_append] at kept
  exact {
    toTold := Child.told there readable reading
    all := Child.whileReading_of_reads there readable
    noLine := fun _ _ _ => Child.not_line_of_whileReading there readable reading
    ends := Child.reads_notice_die (Child.isSome_spawned_steps there readable)
    troubles := kept }

/-- A blank line, one without a message, the message that the child is ready, a message on which its receiver
fails, and two lines about trouble. -/
theorem child_read_in_order_of_failing_receiver :
    let ready : List (String × Json) := [("type", .str "ready"), ("node", .str "v20")]
    let printed : List (String × Json) := [("type", .str "output"), ("line", .int 1), ("text", .str "x")]
    let blank := " ".toList
    let junk := "boom".toList
    let history : List ChildStep := [.line (fun _ => false) blank, .line (fun _ => false) junk,
      .trouble "warn \n".toList, .line (fun _ => false) (Json.object ready).render, .trouble blank,
      .line (fun _ => true) (Json.object printed).render, .die 3, .notice]
    let child := (Child.fresh .standard none ⟨none, 1, [], [], none, false, false, false⟩).opened
    (∀ step ∈ history, step.IsReadable) ∧ messagesIn history = [⟨ready⟩, ⟨printed⟩] ∧ child.ReadInOrder history := by
  intro ready printed blank junk history child
  have readyRead : Message.decode (trim (Json.object ready).render) = .ok ⟨ready⟩ := by
    have exact : (Json.object ready).Exact := .object (by decide) (by simp [ready, Json.Exact.str])
    have whole : trim (Json.object ready).render = (Json.object ready).render := by decide +kernel
    rw [whole, Message.decode_render exact]
    rfl
  have printedRead : Message.decode (trim (Json.object printed).render) = .ok ⟨printed⟩ := by
    have exact : (Json.object printed).Exact :=
      .object (by decide) (by simp [printed, Json.Exact.str, Json.Exact.int])
    have whole : trim (Json.object printed).render = (Json.object printed).render := by decide +kernel
    rw [whole, Message.decode_render exact]
    rfl
  have blankRefused : Message.decode (trim blank) = .error (.unreadable []) := rfl
  have junkRefused : Message.decode (trim junk) = .error (.unreadable junk) := rfl
  have readable : ∀ step ∈ history, step.IsReadable := by
    simp [history, ChildStep.IsReadable, Readable, readyRead, printedRead, blankRefused, junkRefused,
      MessageError.isMalformed]
  have messages : messagesIn history = [⟨ready⟩, ⟨printed⟩] := by
    simp [history, messagesIn_cons, ChildStep.message?, messageOf?, readyRead, printedRead, blankRefused, junkRefused,
      Except.toOption]
  exact ⟨readable, messages, child_read_in_order _ _ _ readable⟩

end Marginalia

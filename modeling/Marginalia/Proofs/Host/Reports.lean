import Marginalia.Proofs.Host.Provenance
import Marginalia.Proofs.Host.Settling
import Marginalia.Proofs.Number.Whole
import Marginalia.Proofs.Wire.Decoding

/-! # What a host sends and what is read of it
A host that is told proper lines sends only reports (`HostReport`), and whoever reads the channel accepts each
of them and is told just what it reports (`host_and_reader_agree`). Which lines are proper is a matter of the
host's numbers: from `Json.wholeLimit` on, a line comes back with an exponent, and what is read then is no line
any more (`host_sends_unreadable_line`). -/

namespace Marginalia

open Script

/-! ## Reports -/

/-- What a host reports. -/
inductive HostReport where
  /-- It is up. -/
  | ready (version : String)
  /-- The value of an expression on a line. -/
  | result (line : Nat) (value : ExpressionValue)
  /-- An error on a line. -/
  | error (line : Nat) (descriptor : ErrorDescriptor)
  /-- A text that was printed on a line. -/
  | output (line : Nat) (text : String)
  /-- All input is consumed and no late result is missing. -/
  | drained
  deriving Repr

namespace HostReport

/-- The message that carries a report. -/
def message : HostReport → Message
  | ready version => .ready version
  | result line value => .result (some (.int line)) value
  | error line descriptor => .error (some (.int line)) descriptor
  | output line text => .output (some (.int line)) text
  | drained => .drained

/-- The type of its message. -/
def type : HostReport → MessageType
  | ready _ => .ready
  | result _ _ => .result
  | error _ _ => .error
  | output _ _ => .output
  | drained => .drained

/-- An error as a reader is told of it: one without a name gets the name of all errors. -/
def named (descriptor : ErrorDescriptor) : ErrorDescriptor :=
  if descriptor.name.isEmpty then { descriptor with name := Message.anonymousError } else descriptor

/-- The event that a run is told of with a report. -/
def event (runId : Int) : HostReport → Option Event
  | ready _ | drained => none
  | result line value => some ⟨line, .expression value, runId⟩
  | error line descriptor => some ⟨line, .error (named descriptor), runId⟩
  | output line text => some ⟨line, .raw text, runId⟩

/-- The message of a report is an object that the wire takes exactly. -/
theorem exact_message (report : HostReport) : (Json.object report.message.members).Exact := by
  -- What is reported of a value or an error is an object of three texts.
  have texts {first second third : String} (named : [first, second, third].Nodup) (one two three : String) :
      (Json.object [(first, .str one), (second, .str two), (third, .str three)]).Exact :=
    .object named (List.forall_mem_cons.mpr ⟨.str one, List.forall_mem_cons.mpr ⟨.str two,
      List.forall_mem_singleton.mpr (.str three)⟩⟩)
  have lined (number : Nat) {name : String} (named : ["type", "line", name].Nodup) {payload : Json}
      (exact : payload.Exact) (type : String) :
      (Json.object [("type", .str type), ("line", .int number), (name, payload)]).Exact :=
    .object named (List.forall_mem_cons.mpr ⟨.str type, List.forall_mem_cons.mpr ⟨.int number,
      List.forall_mem_singleton.mpr exact⟩⟩)
  cases report with
  | drained => exact .object (by decide) (List.forall_mem_singleton.mpr (.str _))
  | ready version =>
    exact .object (by decide : ["type", "node"].Nodup)
      (List.forall_mem_cons.mpr ⟨.str _, List.forall_mem_singleton.mpr (.str version)⟩)
  | result number value => exact lined number (by decide) (texts (by decide) _ _ _) _
  | error number descriptor => exact lined number (by decide) (texts (by decide) _ _ _) _
  | output number printed => exact lined number (by decide) (.str printed) _

/-- A text that is read as the message of a report holds it. -/
theorem holds {report : HostReport} {text : List Char}
    (read : Json.read? Json.channelDialect text = some (.object report.message.members)) :
    Message.Holds text report.message report.type where
  reads := read
  known := by cases report <;> rfl
  lined needed := by
    cases report with
    | ready | drained => cases needed
    | result number | error number | output number => exact ⟨number, rfl⟩

/-- What is read of an error is the error as a reader is told of it. -/
theorem readError_message (line : ToldLine) (descriptor : ErrorDescriptor) :
    Message.readError ((Message.error line descriptor).get "error") = .ok (named descriptor) := by
  have read : Message.readError ((Message.error line descriptor).get "error") =
      .ok ⟨if (!descriptor.name.isEmpty) = true then descriptor.name else Message.anonymousError,
        descriptor.message, descriptor.detail⟩ := by
    cases line <;> rfl
  rw [read, named]
  cases descriptor.name.isEmpty <;> rfl

/-- A run is told of the event of a report. -/
theorem toEvent_message (report : HostReport) (runId : Int) :
    report.message.toEvent runId = .ok (report.event runId) := by
  rw [Message.toEvent]
  cases report with
  | ready version => rw [message, Message.type?_ready]; rfl
  | result number value => rw [message, Message.type?_result]; rfl
  | error number descriptor =>
    rw [message, Message.type?_error]
    dsimp only
    rw [readError_message]
    rfl
  | output number text => rw [message, Message.type?_output]; rfl
  | drained => rw [message, Message.type?_drained]; rfl

end HostReport

/-! ## Lines that are told -/

/-- A command that names a line below the limit, if it asks for an evaluation. -/
def NamesLine (told : Json) : Prop :=
  ∀ line code, Host.Request.read told.rounded = .evaluate line code →
    ∃ number : Nat, number < Json.wholeLimit ∧ told.get? "line" = some (.int number)

/-- The command to evaluate a text on a line below the limit names it. -/
theorem namesLine_evalCommand {number : Nat} (small : number < Json.wholeLimit) (code : String) :
    NamesLine (evalCommand number code) :=
  fun _ _ _ => ⟨number, small, rfl⟩

/-- The command to note the end of the input asks for no evaluation. -/
theorem namesLine_endCommand : NamesLine endCommand := by
  intro line code reads
  cases reads

theorem Json.member?_cons (here name : String) (value : Json) (members : List (String × Json)) :
    Json.member? ((here, value) :: members) name =
      if (here == name) = true then some value else Json.member? members name := by
  cases same : here == name <;> simp [Json.member?, same]

/-- The member of a rounded object is the rounded member. -/
theorem Json.member?_roundedMembers (members : List (String × Json)) (name : String) :
    Json.member? (Json.roundedMembers members) name = (Json.member? members name).map (·.rounded) := by
  induction members with
  | nil => rfl
  | cons first members ih =>
    obtain ⟨here, value⟩ := first
    rw [Json.roundedMembers, Json.member?_cons, Json.member?_cons, ih]
    split <;> rfl

/-- An evaluation is asked for on the line of its command. -/
theorem line_of_read {command : Json} {line : ToldLine} {code : List Char}
    (reads : Host.Request.read command = .evaluate line code) : line = command.get? "line" := by
  unfold Host.Request.read at reads
  split at reads
  · cases reads
  · split at reads
    · split at reads
      · cases reads
        rfl
      · cases reads
    · cases reads
    · cases reads
    · cases reads

/-- A command that names a line asks for an evaluation on a line that is a number still. -/
theorem NamesLine.exists_line {told : Json} (names : NamesLine told) {line : ToldLine} {code : List Char}
    (reads : Host.Request.read told.rounded = .evaluate line code) :
    ∃ number : Nat, line = some (.int number) := by
  obtain ⟨number, small, named⟩ := names line code reads
  obtain ⟨other, rounds⟩ := Json.rounded_natCast small
  cases told with
  | object members =>
    refine ⟨other, ?_⟩
    have rounded : (Json.object members).rounded = .object (Json.roundedMembers members) := by rw [Json.rounded]
    rw [line_of_read reads, rounded, ← rounds]
    have found : Json.member? members "line" = some (.int number) := named
    exact (Json.member?_roundedMembers members "line").trans (by rw [found]; rfl)
  | null | bool | int | real | str | list => cases named

/-! ## Lines of evaluations -/

namespace Docket

/-- The lines on which evaluations were asked for. -/
def lines (docket : Docket) : List ToldLine := docket.portions.map (·.line)

theorem lines_modify (portions : List Portion) (number : Nat) {change : Portion → Portion}
    (keeps : ∀ portion, (change portion).line = portion.line) :
    (portions.modify number change).map (·.line) = portions.map (·.line) := by
  refine List.ext_getElem? fun place => ?_
  rw [List.getElem?_map, List.getElem?_map, List.getElem?_modify]
  cases portions[place]? with
  | none => rfl
  | some portion =>
    by_cases here : number = place
    · simp [here, keeps]
    · simp [here]

@[simp] theorem lines_judge (docket : Docket) (verdict : Option (Nat × Bool)) :
    (docket.judge verdict).lines = docket.lines := by
  cases verdict with
  | none => rfl
  | some verdict => exact lines_modify docket.portions verdict.1 fun _ => rfl

/-- An event adds at most the line of the command that starts with it. -/
theorem mem_lines_note {docket : Docket} {event : HostEvent} {line : ToldLine}
    (member : line ∈ (docket.note event).lines) : line ∈ docket.lines ∨
      ∃ command, event = .start command ∧ ∃ code, Host.Request.read command = .evaluate line code := by
  cases event with
  | start command =>
    cases reads : Host.Request.read command with
    | evaluate named code =>
      rw [note, reads, begin, lines, List.map_append, List.mem_append] at member
      rcases member with earlier | last
      · exact .inl earlier
      · obtain rfl : line = named := List.mem_singleton.mp last
        exact .inr ⟨command, rfl, code, reads⟩
    | finish =>
      have closed : (docket.begin .finish).lines = docket.lines := lines_modify _ _ fun _ => rfl
      rw [note, reads, closed] at member
      exact .inl member
    | exit | unknown | broken =>
      rw [note, reads] at member
      exact .inl member
  | act action =>
    rw [note, lines_judge] at member
    exact .inl member
  | arrive | garble | close | plan | comeBack | deliver | drop | surface => exact .inl member

/-- A line on which an evaluation was asked for is that of a command that started. -/
theorem exists_start {events : List HostEvent} {line : ToldLine} (member : line ∈ (ofEvents events).lines) :
    ∃ command ∈ starts events, ∃ code, Host.Request.read command = .evaluate line code := by
  induction events using List.reverseRecOn with
  | nil => cases member
  | append_singleton events event ih =>
    rw [ofEvents_concat] at member
    rw [starts_append]
    rcases mem_lines_note member with earlier | ⟨command, rfl, code, reads⟩
    · obtain ⟨command, started, reads⟩ := ih earlier
      exact ⟨command, List.mem_append_left _ started, reads⟩
    · exact ⟨command, List.mem_append_right _ (List.mem_singleton_self command), code, reads⟩

/-- All evaluations were asked for on lines that are numbers. -/
def Numbered (docket : Docket) : Prop := ∀ line ∈ docket.lines, ∃ number : Nat, line = some (.int number)

namespace Numbered

variable {docket : Docket} (numbered : docket.Numbered)

include numbered in
theorem latestLine : ∃ number : Nat, docket.latestLine = some (.int number) := by
  rw [Docket.latestLine]
  cases last : docket.portions.getLast? with
  | none => exact ⟨0, rfl⟩
  | some portion => exact numbered portion.line (List.mem_map_of_mem (List.mem_of_getLast? last))

include numbered in
theorem lineOf {number : Nat} {line : ToldLine} (asked : docket.lineOf? number = some line) :
    ∃ number : Nat, line = some (.int number) := by
  obtain ⟨portion, found, rfl⟩ := Option.map_eq_some_iff.mp asked
  exact numbered portion.line (List.mem_map_of_mem (List.mem_of_getElem? found))

end Numbered

end Docket

/-! ## Everything that is sent -/

section Sent

variable {events : List HostEvent} {event : HostEvent} {host next : Host}

/-- What comes from evaluations on lines that are numbers is a report. -/
theorem Comes.exists_report {message : Message} (comes : Comes events event host next message)
    (numbered : ∀ before, before <+: events → (Docket.ofEvents before).Numbered) :
    ∃ report : HostReport, message = report.message := by
  have now := numbered events (List.prefix_refl _)
  -- The answer that pledged a promise came at an earlier moment, on a line that was a number then.
  have earlier {id : PromiseId} {line : ToldLine} (given : Pledged events id line) :
      ∃ number : Nat, line = some (.int number) := by
    obtain ⟨before, answering, inside, number, value, -, asked, -⟩ := given
    exact (numbered before ((List.prefix_append _ _).trans inside)).lineOf asked
  -- Each reason brings the line of its message: that of the latest portion, of the one answered or of the first
  -- one of a statement.
  cases comes with
  | printed text =>
    obtain ⟨number, same⟩ := now.latestLine
    exact ⟨.output number text, by rw [same]; rfl⟩
  | value answers asked =>
    obtain ⟨number, rfl⟩ := now.lineOf asked
    exact ⟨.result number _, rfl⟩
  | error answers asked described =>
    obtain ⟨number, rfl⟩ := now.lineOf asked
    exact ⟨.error number _, rfl⟩
  | fulfilled delivers given settled =>
    obtain ⟨number, rfl⟩ := earlier given
    exact ⟨.result number _, rfl⟩
  | rejected delivers given settled described =>
    obtain ⟨number, rfl⟩ := earlier given
    exact ⟨.error number _, rfl⟩
  | @uncaught text last prints calling opens asked going =>
    obtain ⟨number, same⟩ := now last.line (List.mem_map_of_mem (List.mem_of_getLast? asked))
    exact ⟨.error number (UncaughtReport.describe text.toList), by rw [same]; rfl⟩
  | @cutOff command first others begins reads goesOn =>
    have among : first ∈ openPortions (Docket.ofEvents events).portions := by
      rw [goesOn]
      exact List.mem_cons_self
    have member : first ∈ (Docket.ofEvents events).portions :=
      (List.rtakeWhile_suffix Portion.goesOn _).mem among
    obtain ⟨number, same⟩ := now first.line (List.mem_map_of_mem member)
    exact ⟨.error number (Host.cutOffError (statementText (first :: others))), by rw [same]; rfl⟩
  | drained => exact ⟨.drained, rfl⟩

end Sent

namespace HostStep

/-- The command that a step brings as it was told, if it brings one. -/
def told? : HostStep → Option Json
  | .line text => Json.read? Json.strictDialect text
  | .command told => some told
  | .act _ | .schedule _ | .close => none

/-- The command that is told in a step names a line, if there is one. -/
def BringsLine (step : HostStep) : Prop := ∀ told ∈ step.told?, NamesLine told

/-- The host takes a command with rounded numbers. -/
theorem command?_eq (step : HostStep) : step.command? = step.told?.map (·.rounded) := by
  cases step <;> rfl

end HostStep

/-- Some events bring only commands that name a line, as the host takes them. -/
def BringLines (events : List HostEvent) : Prop :=
  ∀ command ∈ arrivals events, ∃ told, NamesLine told ∧ command = told.rounded

/-- The chronicle of steps that bring lines brings lines. -/
theorem bringLines_chronicle (host : Host) {history : List HostStep} (bring : ∀ step ∈ history, step.BringsLine) :
    BringLines (host.chronicle history) := by
  intro command arrived
  rw [Host.arrivals_chronicle] at arrived
  obtain ⟨step, member, brought⟩ := List.mem_filterMap.mp arrived
  rw [step.command?_eq] at brought
  obtain ⟨told, was, rfl⟩ := Option.map_eq_some_iff.mp brought
  exact ⟨told, bring step member told was, rfl⟩

section After

variable {version : String} {setup : HostSetup} {events : List HostEvent}

/-- At every moment of a chronicle, all evaluations were asked for on lines that are numbers. -/
theorem numbered_of_prefix (admitted : (Host.start version setup).Admits events) (bring : BringLines events)
    {before : List HostEvent} (inside : before <+: events) : (Docket.ofEvents before).Numbered := by
  intro line member
  obtain ⟨command, started, code, reads⟩ := Docket.exists_start member
  obtain ⟨rest, rfl⟩ := inside
  have arrived : command ∈ arrivals (before ++ rest) := by
    refine (Host.order_after admitted).first.mem ?_
    rw [starts_append]
    exact List.mem_append_left _ started
  obtain ⟨told, names, rfl⟩ := bring command arrived
  exact names.exists_line reads

/-- **All that a host sends are reports**, where the commands that it gets name proper lines. -/
theorem sent_are_reports (admitted : (Host.start version setup).Admits events) (bring : BringLines events) :
    ∀ message ∈ ((Host.start version setup).after events).sent, ∃ report : HostReport, message = report.message := by
  revert bring
  refine admitted.induction (motive := fun events => BringLines events →
    ∀ message ∈ ((Host.start version setup).after events).sent, ∃ report : HostReport, message = report.message)
    ?_ fun before event earlier allowed ih bring => ?_
  · intro _ message member
    rw [List.mem_singleton.mp member]
    exact ⟨.ready version, rfl⟩
  · have bringBefore : BringLines before := fun command arrived => bring command (by
      rw [arrivals_append]
      exact List.mem_append_left _ arrived)
    obtain ⟨messages, sent, reasons⟩ :=
      adds_happen (Host.tells_after earlier) (Host.backed_after earlier) allowed
    rw [Host.after_append, Host.after_cons, Host.after_nil, sent]
    intro message member
    rcases List.mem_append.mp member with already | now
    · exact ih bringBefore message already
    · exact (reasons message now).exists_report fun _ inside => numbered_of_prefix earlier bringBefore inside

end After

/-- **Host and reader speak the same format.** Whatever commands a host gets, as long as those to evaluate name
lines below the limit, and whatever the interpreter does: each message that it sends carries a report. There
is a text that is read as that message, every such text is accepted as it, and a run is told the report: of a
value or an error an event on the line of the message with the same texts, of an output a text that is not
classified yet, and of nothing else. -/
theorem host_and_reader_agree (version : String) (setup : HostSetup) :
    let start := Host.start version setup
    (∀ history, start.after (start.chronicle history) = start.steps history ∧
      start.Admits (start.chronicle history) ∧
      ((∀ step ∈ history, step.BringsLine) → BringLines (start.chronicle history))) ∧
    ∀ events, start.Admits events → BringLines events → ∀ message ∈ (start.after events).sent,
      ∃ report : HostReport, message = report.message ∧
        (∃ text, Json.read? Json.channelDialect text = some (.object message.members)) ∧
        (∀ text, Json.read? Json.channelDialect text = some (.object message.members) →
          Message.decode text = .ok message) ∧
        ∀ runId, message.toEvent runId = .ok (report.event runId) := by
  intro start
  refine ⟨fun history => ?_, fun events admitted bring message member => ?_⟩
  · have quiet : start.asking = false := rfl
    obtain ⟨same, admitted⟩ := Host.chronicle_spec quiet history
    exact ⟨same, admitted, bringLines_chronicle start⟩
  · obtain ⟨report, rfl⟩ := sent_are_reports admitted bring message member
    exact ⟨report, rfl, ⟨_, Json.read?_render _ report.exact_message⟩,
      fun _ read => (HostReport.holds read).decode_eq, report.toEvent_message⟩

/-- A host that is told to evaluate two lines and then of the end of the input, one of them printing, sends four
messages behind the one that it is up, and each of them is told to a run. -/
theorem host_and_reader_agree_of_print :
    let start := Host.start "v20.11.0" ⟨some 2, ["log"]⟩
    let history := [.schedule [.print "one\n", .answer (.value (.number (.finite false 1 0)))],
      .schedule [.print "Uncaught Error: two\n"], .command (evalCommand 3 "x"), .command (evalCommand 5 "y"),
      .command endCommand]
    (∀ step ∈ history, step.BringsLine) ∧
      (start.steps history).sent.map (·.type?) =
        [some .ready, some .output, some .result, some .error, some .drained] ∧
      ∀ message ∈ (start.steps history).sent, ∃ event, message.toEvent 0 = .ok event := by
  intro start history
  have three : NamesLine (evalCommand 3 "x") :=
    namesLine_evalCommand (by decide : 3 < Json.wholeLimit) "x"
  have five : NamesLine (evalCommand 5 "y") :=
    namesLine_evalCommand (by decide : 5 < Json.wholeLimit) "y"
  have bring : ∀ step ∈ history, step.BringsLine := by
    simp [history, HostStep.BringsLine, HostStep.told?, three, five, namesLine_endCommand]
  obtain ⟨chronicled, told⟩ := host_and_reader_agree "v20.11.0" ⟨some 2, ["log"]⟩
  obtain ⟨same, admitted, brings⟩ := chronicled history
  refine ⟨bring, by decide +kernel, fun message member => ?_⟩
  rw [← same] at member
  obtain ⟨report, -, -, -, events⟩ := told (start.chronicle history) admitted (brings bring) message member
  exact ⟨report.event 0, events 0⟩

/-- The host sends the result of a line at the limit on a line that is none to the reader. -/
theorem host_sends_unreadable_line :
    let start := Host.start "v20.11.0" ⟨some 2, ["log"]⟩
    let history := [.schedule [.answer (.value (.number (.finite false 1 0)))],
      .command (evalCommand Json.wholeLimit "1")]
    (start.steps history).sent.map (·.type?) = [some .ready, some .result] ∧
      (start.steps history).sent.map
        (fun message => (Message.decode (Json.object message.members).render).isOk) = [true, false] := by
  decide +kernel

end Marginalia

import Marginalia.Child
import Marginalia.Proofs.Json.RoundTrip
import Marginalia.Proofs.Run.Classifying

/-! # Lines of the channel as messages
A line is accepted as a message exactly if it holds an object of a known type, with a line number where its
type asks for one, and what is accepted reports nothing, a proper event, or is malformed (`decode_verdict`).
All other lines are malformed but for one kind: where the type of the message is itself a list or an object,
it cannot even be looked up, and the reader of the channel stops there (`Child.reads_readLines`). -/

namespace Marginalia

/-- The kind of the events that messages of a type report; printed text has none yet. -/
def MessageType.kind? : MessageType → Option OutputKind
  | .result => some .expression
  | .error => some .error
  | .ready | .output | .drained => none

/-- The member with the object that messages of a type report. -/
def MessageType.reportName? : MessageType → Option String
  | .result => some "value"
  | .error => some "error"
  | .ready | .output | .drained => none

namespace Message

/-! ## What lines hold -/

/-- A line that holds an object whose type is a list or an object. -/
def NamesCompound (line : List Char) : Prop :=
  ∃ members, Json.read? Json.channelDialect line = some (.object members) ∧
    ((∃ items, get ⟨members⟩ "type" = .list items) ∨ ∃ parts, get ⟨members⟩ "type" = .object parts)

/-- A line that holds a message: an object of one of the known types, with a number from zero on for its line
where messages of the type have one. -/
structure Holds (line : List Char) (message : Message) (type : MessageType) : Prop where
  /-- The line is read as an object with the members of the message. -/
  reads : Json.read? Json.channelDialect line = some (.object message.members)
  /-- The type is named by a text. -/
  known : message.get "type" = .str type.name
  /-- The line is named by a number, where there has to be one. -/
  lined : type.hasLine = true → ∃ number : Nat, message.get "line" = .int number

/-- A type is named by its own name only. -/
theorem name_of_ofName? {name : String} {type : MessageType} (found : MessageType.ofName? name = some type) :
    type.name = name := by
  have named := List.find?_some found
  exact beq_iff_eq.mp named

/-- A message is of a type if that is what its member says. -/
theorem type?_eq_some {message : Message} {type : MessageType} :
    message.type? = some type ↔ message.get "type" = .str type.name := by
  rw [type?]
  constructor
  · intro known
    split at known
    · next name named => rw [named, name_of_ofName? known]
    · cases known
  · intro named
    rw [named]
    exact MessageType.ofName?_name type

theorem isLine_iff {value : Json} : isLine value = true ↔ ∃ number : Nat, value = .int number := by
  constructor
  · intro lined
    cases value with
    | int line =>
      obtain ⟨number, rfl⟩ := Int.eq_ofNat_of_zero_le (of_decide_eq_true lined)
      exact ⟨number, rfl⟩
    | null | bool | real | str | list | object => cases lined
  · rintro ⟨number, rfl⟩
    exact decide_eq_true (Int.natCast_nonneg number)

/-- A line that holds a message is accepted as that message. -/
theorem Holds.decode_eq {line : List Char} {message : Message} {type : MessageType}
    (holds : Holds line message type) : decode line = .ok message := by
  have checked : (type.hasLine && !isLine (message.get "line")) = false := by
    by_cases needed : type.hasLine = true
    · rw [isLine_iff.mpr (holds.lined needed), Bool.not_true, Bool.and_false]
    · rw [Bool.not_eq_true] at needed
      rw [needed, Bool.false_and]
  rw [decode, holds.reads]
  change validate message = .ok message
  rw [validate, type?_eq_some.mpr holds.known]
  simp only [checked, Bool.false_eq_true, if_false]

/-- What is accepted is held by its line. -/
theorem holds_of_decode {line : List Char} {message : Message} (accepted : decode line = .ok message) :
    ∃ type, Holds line message type := by
  obtain ⟨type, known, lined⟩ := of_decode accepted
  have reads : Json.read? Json.channelDialect line = some (.object message.members) := by
    rw [decode] at accepted
    split at accepted
    · cases accepted
    · next members read =>
      obtain ⟨rfl, -⟩ := of_validate accepted
      exact read
    · cases accepted
  exact ⟨type, reads, type?_eq_some.mp known, fun needed => isLine_iff.mp (lined needed)⟩

/-- The type of a message can be looked up. -/
theorem Holds.not_namesCompound {line : List Char} {message : Message} {type : MessageType}
    (holds : Holds line message type) : ¬ NamesCompound line := by
  rintro ⟨members, again, compound⟩
  obtain rfl : message.members = members := by simpa [holds.reads] using again
  rcases compound with ⟨items, named⟩ | ⟨parts, named⟩
  · cases holds.known.symm.trans named
  · cases holds.known.symm.trans named

/-- An object that the channel takes exactly is read back, and checked as a message. -/
theorem decode_render {members : List (String × Json)} (exact : (Json.object members).Exact) :
    decode (Json.object members).render = validate ⟨members⟩ := by
  rw [decode, Json.read?_render Json.channelDialect exact]

/-! ## What is refused -/

/-- A message that is refused is malformed, unless its type cannot be looked up. -/
theorem isMalformed_of_validate {message : Message} {fault : MessageError}
    (refused : message.validate = .error fault) :
    fault.isMalformed = true ↔ ¬ ((∃ items, message.get "type" = .list items) ∨
      ∃ parts, message.get "type" = .object parts) := by
  rw [validate] at refused
  split at refused
  · next type known =>
    have named := type?_eq_some.mp known
    split at refused
    · obtain rfl := Except.error.inj refused
      simp [MessageError.isMalformed, named]
    · cases refused
  · next items unknown named _ =>
    obtain rfl := Except.error.inj refused
    simp [MessageError.isMalformed, named]
  · next parts unknown named _ =>
    obtain rfl := Except.error.inj refused
    simp [MessageError.isMalformed, named]
  · rename_i noList noObject
    obtain rfl := Except.error.inj refused
    refine ⟨fun _ compound => ?_, fun _ => rfl⟩
    rcases compound with ⟨items, named⟩ | ⟨parts, named⟩
    · exact noList items named
    · exact noObject parts named

/-- A line that is refused is malformed, unless the type of its object cannot be looked up. -/
theorem isMalformed_of_decode {line : List Char} {fault : MessageError} (refused : decode line = .error fault) :
    fault.isMalformed = true ↔ ¬ NamesCompound line := by
  rw [decode] at refused
  split at refused
  · next unread =>
    obtain rfl := Except.error.inj refused
    refine ⟨fun _ compound => ?_, fun _ => rfl⟩
    obtain ⟨members, read, -⟩ := compound
    rw [unread] at read
    cases read
  · next members read =>
    rw [isMalformed_of_validate refused, not_iff_not]
    constructor
    · exact fun compound => ⟨members, read, compound⟩
    · rintro ⟨others, again, compound⟩
      obtain rfl : members = others := by simpa [read] using again
      exact compound
  · rename_i noObject read
    obtain rfl := Except.error.inj refused
    refine ⟨fun _ compound => ?_, fun _ => rfl⟩
    obtain ⟨members, again, -⟩ := compound
    rw [read] at again
    exact noObject members (Option.some.inj again)

/-! ## What messages tell -/

/-- What a message of a type tells a run. -/
inductive Tells (message : Message) (type : MessageType) (runId : Int) :
    Except MessageError (Option Event) → Prop where
  /-- Nothing, if messages of the type belong to no line. -/
  | nothing (lineless : type.hasLine = false) : Tells message type runId (.ok none)
  /-- An event on the line that the message names, of the kind that goes with the type. -/
  | event {line : Nat} {event : Event} (lined : type.hasLine = true) (named : message.get "line" = .int line)
      (made : Event.make? line type.kind? event.payload runId = .ok event) :
      Tells message type runId (.ok (some event))
  /-- That it is malformed, because what it reports is no object. -/
  | malformed {name : String} {fault : MessageError} (reports : type.reportName? = some name)
      (noObject : ∀ parts, message.get name ≠ .object parts) (malformed : fault.isMalformed = true) :
      Tells message type runId (.error fault)

theorem of_readValue {value : Json} {fault : MessageError} (refused : readValue value = .error fault) :
    fault.isMalformed = true ∧ ∀ parts, value ≠ .object parts := by
  unfold readValue at refused
  split at refused
  · cases refused
  · next noObject =>
    obtain rfl := Except.error.inj refused
    exact ⟨rfl, noObject⟩

theorem of_readError {value : Json} {fault : MessageError} (refused : readError value = .error fault) :
    fault.isMalformed = true ∧ ∀ parts, value ≠ .object parts := by
  unfold readError at refused
  split at refused
  · cases refused
  · next noObject =>
    obtain rfl := Except.error.inj refused
    exact ⟨rfl, noObject⟩

/-- The event of a payload lies on the line that the message names. -/
theorem eventOf_of_line {message : Message} {line : Nat} (named : message.get "line" = .int line)
    (type : MessageType) (runId : Int) (payload : Payload) :
    message.eventOf type runId payload = .ok (some ⟨line, payload, runId⟩) := by
  rw [eventOf, named]

/-- A message that a line holds tells a run nothing else. -/
theorem Holds.tells {line : List Char} {message : Message} {type : MessageType}
    (holds : Holds line message type) (runId : Int) : Tells message type runId (message.toEvent runId) := by
  -- A payload of the right kind makes an event on the line of the message.
  have told (payload : Payload) (fits : payload.kind? = type.kind?) (lined : type.hasLine = true) :
      Tells message type runId (message.eventOf type runId payload) := by
    obtain ⟨number, named⟩ := holds.lined lined
    rw [eventOf_of_line named]
    exact .event lined named (Event.make?_eq_ok_iff.mpr ⟨rfl, fits, rfl, rfl⟩)
  rw [toEvent, type?_eq_some.mpr holds.known]
  cases type with
  | ready | drained => exact .nothing rfl
  | output => exact told _ rfl rfl
  | result =>
    cases read : readValue (message.get "value") with
    | ok value => exact told (.expression value) rfl rfl
    | error fault =>
      obtain ⟨malformed, noObject⟩ := of_readValue read
      exact .malformed rfl noObject malformed
  | error =>
    cases read : readError (message.get "error") with
    | ok descriptor => exact told (.error descriptor) rfl rfl
    | error fault =>
      obtain ⟨malformed, noObject⟩ := of_readError read
      exact .malformed rfl noObject malformed

end Message

/-- What becomes of a line of the channel. -/
structure Judged (line : List Char) : Prop where
  /-- Exactly the lines that hold a message are accepted, as that message. -/
  accepted : ∀ message, Message.decode line = .ok message ↔ ∃ type, Message.Holds line message type
  /-- Any other line is malformed, unless the type of its object cannot be looked up. -/
  refused : ∀ fault, Message.decode line = .error fault →
    (fault.isMalformed = true ↔ ¬ Message.NamesCompound line)
  /-- A message tells nothing, a proper event on its line, or that it is malformed. -/
  told : ∀ message type, Message.Holds line message type →
    ∀ runId, Message.Tells message type runId (message.toEvent runId)

theorem judged (line : List Char) : Judged line where
  accepted _ := ⟨Message.holds_of_decode, fun ⟨_, holds⟩ => holds.decode_eq⟩
  refused _ := Message.isMalformed_of_decode
  told _ _ holds := holds.tells

/-! ## The reader of the channel -/

namespace Child

/-- Whether the output of the child is still read. -/
def reads (child : Child) : Bool := child.spawned.any (·.reading)

/-- A message changes nothing about the reading. -/
theorem reads_take (child : Child) (fails : Message → Bool) (message : Message) :
    (child.take fails message).1.reads = child.reads := by
  unfold take
  split <;> rfl

/-- An empty line holds nothing. -/
theorem not_namesCompound_nil : ¬ Message.NamesCompound [] := by
  rintro ⟨members, read, -⟩
  cases read

/-- The reading goes on after a line, unless the type of its object cannot be looked up. -/
theorem reads_readLine (child : Child) (fails : Message → Bool) (line : List Char) :
    (child.readLine fails line).1.reads = true ↔
      child.reads = true ∧ ¬ Message.NamesCompound (Text.trim line) := by
  unfold readLine
  by_cases reading : child.reads = true
  · rw [if_pos (show child.spawned.any (·.reading) = true from reading), and_iff_right reading]
    dsimp only
    split
    · next empty =>
      rw [List.isEmpty_iff.mp empty]
      exact iff_of_true reading not_namesCompound_nil
    · split
      · next message accepted =>
        obtain ⟨type, holds⟩ := Message.holds_of_decode accepted
        rw [reads_take]
        exact iff_of_true reading holds.not_namesCompound
      · next fault refused =>
        -- What is malformed is dropped; any other fault ends the reading.
        rw [← Message.isMalformed_of_decode refused]
        split
        · next malformed => exact iff_of_true reading malformed
        · next unforeseen =>
          refine iff_of_false ?_ unforeseen
          rw [reads, change, Option.any_map]
          simp
  · rw [if_neg (show ¬ child.spawned.any (·.reading) = true from reading)]
    exact iff_of_false reading fun both => reading both.1

/-- The reading goes on after some lines exactly if it goes on after each. -/
theorem reads_readLines (child : Child) (fails : Message → Bool) (lines : List (List Char)) :
    (child.readLines fails lines).1.reads = true ↔
      child.reads = true ∧ ∀ line ∈ lines, ¬ Message.NamesCompound (Text.trim line) := by
  induction lines generalizing child with
  | nil => exact (and_iff_left nofun).symm
  | cons line lines ih =>
    have later := ih (child.readLine fails line).1
    rw [reads_readLine, and_assoc] at later
    rw [List.forall_mem_cons]
    exact later

end Child

/-- **What is read from the channel.** Every line, whatever it holds, is accepted as a message of a known type with
a proper line, or refused, and what is accepted tells nothing, a proper event, or that it is malformed. What is
refused is malformed, and the reader drops it and goes on, with one exception: the reading ends at a line with
an object whose type is a list or an object. -/
theorem channel_reading (child : Child) (fails : Message → Bool) (lines : List (List Char)) :
    (∀ line, Judged line) ∧ ((child.readLines fails lines).1.reads = true ↔
      child.reads = true ∧ ∀ line ∈ lines, ¬ Message.NamesCompound (Text.trim line)) :=
  ⟨judged, child.reads_readLines fails lines⟩

/-- A list for the type of a message is no malformed message to the reader, and ends the reading. -/
theorem channel_reading_ends_at_list :
    let line := "\x7b\"type\": [\"ready\"]\x7d".toList
    let fault := MessageError.compoundType (.list [.str "ready"])
    let child : Child := { Child.fresh .standard none ⟨none, 1, [], [], none, false, false, false⟩ with
      spawned := some ⟨1, none, .intact, false, true⟩ }
    Message.decode line = .error fault ∧ fault.isMalformed = false ∧ child.reads = true ∧
      (child.readLine (fun _ => false) line).1.reads = false := by
  intro line fault child
  have written : line = (Json.object [("type", .list [.str "ready"])]).render := by decide +kernel
  have exact : (Json.object [("type", .list [.str "ready"])]).Exact :=
    .object (by decide) (List.forall_mem_singleton.mpr (.list (List.forall_mem_singleton.mpr (.str _))))
  have read : Json.read? Json.channelDialect line = some (.object [("type", .list [.str "ready"])]) :=
    written ▸ Json.read?_render Json.channelDialect exact
  have compound : Message.NamesCompound (Text.trim line) := ⟨_, read, .inl ⟨_, rfl⟩⟩
  have stops : ¬ (child.readLine (fun _ => false) line).1.reads = true := fun goes =>
    ((child.reads_readLine _ line).mp goes).2 compound
  refine ⟨?_, rfl, rfl, Bool.eq_false_iff.mpr stops⟩
  rw [Message.decode, read]
  rfl

end Marginalia

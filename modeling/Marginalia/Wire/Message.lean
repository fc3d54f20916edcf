import Marginalia.Event
import Marginalia.Json.Reader
import Marginalia.Json.Value
import Marginalia.Number.Limited

/-! # Messages
What the host sends, one message a line. A line is read as a message of a known type (`Message.decode`),
and a message that reports a result, an error or an output becomes an event (`Message.toEvent`). Whatever
is wrong with a line or a message is a `MessageError`. Integers on a line have any size: the limit on numerals
is taken to be off where the channel is read. -/

namespace Marginalia

/-- The types of messages. -/
inductive MessageType where
  /-- The host is up. -/
  | ready
  /-- The value of an expression. -/
  | result
  /-- An error raised by a line. -/
  | error
  /-- Printed text. -/
  | output
  /-- All input is consumed and no late result is missing. -/
  | drained
  deriving DecidableEq, Repr

namespace MessageType

/-- The name of a type. -/
def name : MessageType → String
  | .ready => "ready"
  | .result => "result"
  | .error => "error"
  | .output => "output"
  | .drained => "drained"

/-- All types. -/
def all : List MessageType := [.ready, .result, .error, .output, .drained]

/-- The type of a name. -/
def ofName? (name : String) : Option MessageType := all.find? (·.name == name)

/-- A type is found by its name. -/
@[simp] theorem ofName?_name (kind : MessageType) : ofName? kind.name = some kind := by
  cases kind <;> rfl

/-- Whether a message of a type belongs to a line. -/
def hasLine : MessageType → Bool
  | .result | .error | .output => true
  | .ready | .drained => false

end MessageType

/-- Why a line is no message, a message no event, or its event not classified. -/
inductive MessageError where
  /-- The line is no wire value. -/
  | unreadable (line : List Char)
  /-- The line is a wire value without members. -/
  | notObject (line : List Char)
  /-- The type of the message is not known. -/
  | unknownType (value : Json)
  /-- The type of the message is a list or an object and cannot be looked up. -/
  | compoundType (value : Json)
  /-- The line that the message names is no line. -/
  | invalidLine (type : MessageType) (value : Json)
  /-- The value of a result is no object. -/
  | invalidResult (value : Json)
  /-- The error of an error message is no object. -/
  | invalidError (value : Json)
  /-- The line of the event is below zero. -/
  | negativeLine (line : Int)
  /-- The event cannot be classified. -/
  | unclassified (fault : NumeralError)
  deriving Repr

namespace MessageError

/-- How much of a line is quoted in a diagnostic. -/
def quoteLimit : Nat := 200

/-- The beginning of a line, quoted. -/
def excerpt (line : List Char) : String := String.ofList (Text.quoted (line.take quoteLimit))

/-- The name of the form of a wire value with parts. -/
def formName : Json → String
  | .list _ => "list"
  | _ => "dict"

/-- The text of the error. -/
def message : MessageError → String
  | unreadable line => "Undecodable message from REPL host: " ++ excerpt line
  | notObject line => "Message is not an object: " ++ excerpt line
  | unknownType value => "Unknown message type: " ++ value.diagnostic
  | compoundType value => "unhashable type: '" ++ formName value ++ "'"
  | invalidLine type value => "Invalid line in " ++ type.name ++ " message: " ++ value.diagnostic
  | invalidResult value => "Invalid result payload: " ++ value.diagnostic
  | invalidError value => "Invalid error payload: " ++ value.diagnostic
  | negativeLine line => EventError.message (.negativeLine line)
  | unclassified fault => fault.message

/-- Whether the error is one of those that a receiver of messages expects: it drops the message and
goes on. -/
def isMalformed : MessageError → Bool
  | compoundType _ | negativeLine _ | unclassified _ => false
  | _ => true

end MessageError

/-- A message from the host, by its members. -/
structure Message where
  /-- The members, in the order in which they came. -/
  members : List (String × Json)
  deriving Repr

namespace Message

/-- The member of a name; null if there is none. -/
def get (message : Message) (name : String) : Json := (Json.member? message.members name).getD .null

/-- The type of a message, if it is a known one. -/
def type? (message : Message) : Option MessageType :=
  match message.get "type" with
  | .str name => MessageType.ofName? name
  | _ => none

/-- Whether a value names a line: a whole number from zero on. -/
def isLine : Json → Bool
  | .int line => 0 ≤ line
  | _ => false

/-- Check the type and the line of a message. -/
def validate (message : Message) : Except MessageError Message :=
  match message.get "type", message.type? with
  | _, some type =>
    if type.hasLine && !isLine (message.get "line") then
      .error (.invalidLine type (message.get "line"))
    else .ok message
  | .list items, none => .error (.compoundType (.list items))
  | .object members, none => .error (.compoundType (.object members))
  | value, none => .error (.unknownType value)

/-- Read a line as a message. -/
def decode (line : List Char) : Except MessageError Message :=
  match Json.read? Json.channelDialect line with
  | none => .error (.unreadable line)
  | some (.object members) => validate ⟨members⟩
  | some _ => .error (.notObject line)

/-- The text of a member, empty if it is missing. -/
def textMember (members : List (String × Json)) (name : String) : String :=
  ((Json.member? members name).map Json.asText).getD ""

/-- The name of the error where a report names none. -/
def anonymousError : String := "Error"

/-- The value that a result reports. -/
def readValue : Json → Except MessageError ExpressionValue
  | .object members =>
    .ok ⟨textMember members "text", textMember members "detail", textMember members "type"⟩
  | other => .error (.invalidResult other)

/-- The error that an error message reports; a name that says nothing is replaced. -/
def readError : Json → Except MessageError ErrorDescriptor
  | .object members =>
    let name := (Json.member? members "name").getD .null
    .ok ⟨if name.isTruthy then name.asText else anonymousError,
      textMember members "message", textMember members "detail"⟩
  | other => .error (.invalidError other)

/-- The event of a payload on the line that a message names. -/
def eventOf (message : Message) (type : MessageType) (runId : Int) (payload : Payload) :
    Except MessageError (Option Event) :=
  match message.get "line" with
  | .int (.ofNat line) => .ok (some ⟨line, payload, runId⟩)
  | .int line => .error (.negativeLine line)
  | other => .error (.invalidLine type other)

/-- The event that a message reports, if it reports one. -/
def toEvent (message : Message) (runId : Int) : Except MessageError (Option Event) :=
  match message.type? with
  | some .result => do
    message.eventOf .result runId (.expression (← readValue (message.get "value")))
  | some .error => do
    message.eventOf .error runId (.error (← readError (message.get "error")))
  | some .output =>
    message.eventOf .output runId (.raw (textMember message.members "text"))
  | _ => .ok none

end Message

end Marginalia

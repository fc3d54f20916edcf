/-! # Output events
What the interpreter reports belongs to a line of the document: the value of an expression, a text
printed by a call of the console, an error, or printed text that is not classified yet. The kind of
an event is the kind of its payload; an event whose parts come from outside is put together by
`Event.make?`, which refuses a kind that does not fit. -/

namespace Marginalia

/-- The kinds of classified output. -/
inductive OutputKind where
  /-- The value of an expression. -/
  | expression
  /-- Printed text. -/
  | terminal
  /-- An error. -/
  | error
  deriving DecidableEq, Repr

/-- The name of a kind. -/
def OutputKind.name : OutputKind → String
  | .expression => "Expression"
  | .terminal => "Terminal"
  | .error => "Error"

/-- The value of an expression, described. -/
structure ExpressionValue where
  /-- The value as shown in the margin. -/
  text : String
  /-- The value in full, or nothing. -/
  detail : String
  /-- The type of the value. -/
  typeName : String
  deriving DecidableEq, Repr

/-- A raised error, described. -/
structure ErrorDescriptor where
  /-- The name of the error's class. -/
  name : String
  /-- The message of the error. -/
  message : String
  /-- The stack or the text in full, or nothing. -/
  detail : String
  deriving DecidableEq, Repr

/-- The name and the message of an error in one line. -/
def ErrorDescriptor.summary (descriptor : ErrorDescriptor) : String :=
  if descriptor.message.isEmpty then descriptor.name
  else descriptor.name ++ ": " ++ descriptor.message

/-- What an event carries. -/
inductive Payload where
  /-- The value of an expression. -/
  | expression (value : ExpressionValue)
  /-- A text printed by a call of the console. -/
  | console (text : String)
  /-- An error. -/
  | error (descriptor : ErrorDescriptor)
  /-- Printed text, not classified. -/
  | raw (text : String)
  deriving DecidableEq, Repr

/-- The kind of a payload; text that is not classified has none. -/
def Payload.kind? : Payload → Option OutputKind
  | .expression _ => some .expression
  | .console _ => some .terminal
  | .error _ => some .error
  | .raw _ => none

/-- The name of a payload's form. -/
def Payload.formName : Payload → String
  | .expression _ => "ExpressionValue"
  | .console _ => "ConsoleText"
  | .error _ => "ErrorDescriptor"
  | .raw _ => "RawOutput"

/-- The text of a payload that is a text or the value of an expression. -/
def Payload.text? : Payload → Option String
  | .expression value => some value.text
  | .console text => some text
  | .error _ => none
  | .raw text => some text

/-- One report of the interpreter. -/
structure Event where
  /-- The line it belongs to; zero if no line was started. -/
  line : Nat
  /-- What it says. -/
  payload : Payload
  /-- The run it came from. -/
  runId : Int
  deriving DecidableEq, Repr

/-- Whether an event is classified. -/
def Event.isClassified (event : Event) : Bool := event.payload.kind?.isSome

/-- Why parts do not make an event. -/
inductive EventError where
  /-- The line is below zero. -/
  | negativeLine (line : Int)
  /-- There is no kind and the payload is classified. -/
  | unclassifiedPayload
  /-- The payload is not of the kind. -/
  | kindMismatch (kind : OutputKind) (payload : Payload)
  deriving DecidableEq, Repr

/-- The text of the error. -/
def EventError.message : EventError → String
  | .negativeLine line => s!"Event line cannot be negative: {line}"
  | .unclassifiedPayload => "Unclassified events must carry RawOutput"
  | .kindMismatch kind payload => s!"{kind.name} event cannot carry {payload.formName}"

/-- Put an event together; the line is looked at first. -/
def Event.make? (line : Int) (kind : Option OutputKind) (payload : Payload) (runId : Int) :
    Except EventError Event :=
  match line with
  | .negSucc _ => .error (.negativeLine line)
  | .ofNat line =>
    if payload.kind? = kind then .ok ⟨line, payload, runId⟩
    else
      match kind with
      | none => .error .unclassifiedPayload
      | some kind => .error (.kindMismatch kind payload)

/-- Exactly the parts with a line from zero on and the kind of the payload make an event. -/
theorem Event.make?_eq_ok_iff {line : Int} {kind : Option OutputKind} {payload : Payload}
    {runId : Int} {event : Event} :
    Event.make? line kind payload runId = .ok event ↔
      line = event.line ∧ payload.kind? = kind ∧ payload = event.payload ∧ runId = event.runId := by
  cases line with
  | ofNat line =>
    by_cases fits : payload.kind? = kind
    · obtain ⟨eventLine, eventPayload, eventRun⟩ := event
      simp only [Event.make?, fits, if_true, Except.ok.injEq, Event.mk.injEq, true_and]
      constructor
      · rintro ⟨rfl, rfl, rfl⟩
        exact ⟨rfl, rfl, rfl⟩
      · rintro ⟨same, rfl, rfl⟩
        exact ⟨Int.ofNat.inj same, rfl, rfl⟩
    · cases kind <;> simp [Event.make?, fits]
  | negSucc line =>
    simp [Event.make?]

end Marginalia

import Marginalia.Wire.Message

/-! # Reports of the host
The messages that the host sends, put together from what they report. A report belongs to the line that
the host was told when it was asked to evaluate; where it was told none, the report names none. -/

namespace Marginalia

/-- A line as the host was told it, if it was told one. -/
abbrev ToldLine := Option Json

namespace Message

/-- The members that say which line a report belongs to. -/
def lineMembers (line : ToldLine) : List (String × Json) :=
  match line with
  | some line => [("line", line)]
  | none => []

/-- The member that says of which type a message is. -/
def typeMember (type : MessageType) : String × Json := ("type", .str type.name)

/-- The host is up, with the version of its interpreter. -/
def ready (version : String) : Message := ⟨[typeMember .ready, ("node", .str version)]⟩

/-- The value of an expression. -/
def result (line : ToldLine) (value : ExpressionValue) : Message :=
  ⟨typeMember .result :: (lineMembers line ++ [("value", .object [("text", .str value.text),
    ("detail", .str value.detail), ("type", .str value.typeName)])])⟩

/-- An error raised by a line. -/
def error (line : ToldLine) (descriptor : ErrorDescriptor) : Message :=
  ⟨typeMember .error :: (lineMembers line ++ [("error", .object [("name", .str descriptor.name),
    ("message", .str descriptor.message), ("detail", .str descriptor.detail)])])⟩

/-- Printed text. -/
def output (line : ToldLine) (text : String) : Message :=
  ⟨typeMember .output :: (lineMembers line ++ [("text", .str text)])⟩

/-- All input is consumed and no late result is missing. -/
def drained : Message := ⟨[typeMember .drained]⟩

@[simp] theorem type?_ready (version : String) : (ready version).type? = some .ready := by
  simp [ready, type?, get, Json.member?, typeMember, MessageType.ofName?_name]

@[simp] theorem type?_result (line : ToldLine) (value : ExpressionValue) :
    (result line value).type? = some .result := by
  simp [result, type?, get, Json.member?, typeMember, MessageType.ofName?_name]

@[simp] theorem type?_error (line : ToldLine) (descriptor : ErrorDescriptor) :
    (error line descriptor).type? = some .error := by
  simp [error, type?, get, Json.member?, typeMember, MessageType.ofName?_name]

@[simp] theorem type?_output (line : ToldLine) (text : String) :
    (output line text).type? = some .output := by
  simp [output, type?, get, Json.member?, typeMember, MessageType.ofName?_name]

@[simp] theorem type?_drained : drained.type? = some .drained := by
  simp [drained, type?, get, Json.member?, typeMember, MessageType.ofName?_name]

end Message

end Marginalia

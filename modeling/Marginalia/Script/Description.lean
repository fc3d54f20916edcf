import Marginalia.Event
import Marginalia.Script.Inspection
import Marginalia.Script.Serialized
import Marginalia.Text.Blank
import Marginalia.Text.Line

/-! # Descriptions
What is reported of a value or of an error. A value is described by a short text, its inspection and
its type; an error by its name, its message and its stack. The report that the interpreter prints of an
uncaught error is read as a description as well (`ofReport`). -/

namespace Marginalia.Script

open Text

/-- How values are described. -/
structure Describer where
  /-- The level below which objects are not shown. -/
  depth : Option Int
  /-- What became of the promises. -/
  promises : Promises
  deriving Repr

namespace Describer

/-- The inspection of a value. -/
def detail (describer : Describer) (value : Value) : String :=
  String.ofList (Inspection.inspect (.upTo describer.depth) describer.promises value)

/-- Whether a value is a list or an object of no class of its own. -/
def isData : Value → Bool
  | .list _ => true
  | .record (.ofClass name) _ => name == "Object"
  | .record .. => true
  | _ => false

/-- Describe a value. Texts are shown as they are, lists and plain objects serialized if possible. -/
def ofValue (describer : Describer) (value : Value) : ExpressionValue :=
  let detail := describer.detail value
  let text :=
    match value with
    | .text text => text
    | value =>
      if isData value then ((Serialized.ofValue value).text?.map String.ofList).getD detail
      else detail
  ⟨text, detail, value.typeName⟩

/-- The name of an error that has none. -/
def anonymousName : Value := .text "Error"

/-- The name of what is thrown and is no error. -/
def uncaughtName : String := "Uncaught"

/-- Describe what was thrown. What has a message counts as an error; it cannot be described if its name,
its message or its stack has no text. -/
def ofThrown (describer : Describer) (thrown : Value) : Except Value ErrorDescriptor :=
  match thrown.member? "message" with
  | some message => do
    let name ← ((thrown.member "name").orElse anonymousName).toText
    let text ← message.toText
    let detail ← ((thrown.member "stack").orElse message).toText
    .ok ⟨name, text, detail⟩
  | none =>
    let detail := describer.detail thrown
    .ok ⟨uncaughtName, detail, detail⟩

end Describer

/-! ## Reports of uncaught errors -/

namespace UncaughtReport

/-- The word that opens a report. -/
def word : List Char := "Uncaught".toList

/-- A letter, digit or underscore of ASCII. -/
def isWordChar (c : Char) : Bool := c.isAlphanum || c == '_'

/-- A character of the name of an error. -/
def isNameChar (c : Char) : Bool := isWordChar c || c == '$'

/-- Whether a printed text is a report: the word stands in front, after blanks. -/
def opens (text : List Char) : Bool :=
  match expect word (trimStartBy isScriptBlank text) with
  | some [] => true
  | some (c :: _) => !isWordChar c
  | none => false

/-- The text after the blanks at the end of a line and the line break, if it goes on like that. -/
def skipLineEnd? (text : List Char) : Option (List Char) :=
  match text.dropWhile isIndent with
  | '\n' :: rest => some rest
  | '\r' :: '\n' :: rest => some rest
  | _ => none

/-- The report without its opening. -/
def body (report : List Char) : List Char :=
  match expect word report with
  | some (':' :: rest) => (skipLineEnd? rest).getD report
  | some (c :: rest) => if isIndent c then rest.dropWhile isIndent else report
  | _ => report

/-- The text after a code in brackets, if one stands in front. -/
def skipCode? (text : List Char) : Option (List Char) :=
  match text with
  | ' ' :: '[' :: rest =>
    match spanOf (· != ']') rest with
    | (_ :: _, ']' :: after) => some after
    | _ => none
  | _ => none

/-- The message behind a name, if one follows. -/
def messageAfter? : List Char → Option (List Char)
  | ':' :: ' ' :: message => some message
  | _ => none

/-- Read a line as a name, a code that may be missing, and a message. -/
def nameAndMessage? (line : List Char) : Option (List Char × List Char) :=
  let (name, rest) := spanOf isNameChar line
  if name.head?.any fun c => !c.isDigit then
    (((skipCode? rest).bind messageAfter?).or (messageAfter? rest)).map fun message => (name, message)
  else none

/-- Read a report as the description of an error. -/
def describe (text : List Char) : ErrorDescriptor :=
  let detail := body (trimBy isScriptBlank text)
  match nameAndMessage? ((physicalLines detail).headD []) with
  | some (name, message) => ⟨String.ofList name, String.ofList message, String.ofList detail⟩
  | none => ⟨Describer.uncaughtName, String.ofList detail, String.ofList detail⟩

end UncaughtReport

end Marginalia.Script

import Marginalia.Event
import Marginalia.Log.Record
import Marginalia.Marker
import Marginalia.Text.Blank
import Marginalia.Text.Category
import Marginalia.Text.Line
import Marginalia.Text.Scan

/-! # Classification of printed text
Printed text becomes an event by the first rule that fits: text that says nothing is dropped, the
report of an uncaught error becomes an error on the line that was current, text that opens with a
console tag becomes a printed text on the line of the tag. Anything else is only reported. -/

namespace Marginalia

open Text

/-- Whether a printed text says nothing: no text, the missing value, or prompts to go on. -/
def isNoise (text : List Char) : Bool :=
  let trimmed := trim text
  trimmed.isEmpty || trimmed == "undefined".toList ||
    (trimmed.all (· == '.') && decide (3 ≤ trimmed.length))

/-- The words that end the name of an error. -/
def errorWords : List (List Char) := ["Error".toList, "Exception".toList]

/-- Whether a word is the name of an error: one of the error words, with a name in front of it that
may be empty. -/
def isErrorName (name : List Char) : Bool :=
  errorWords.any fun word =>
    let front := name.take (name.length - word.length)
    name == front ++ word && front.head?.all isNameStart

/-- Read the code in brackets after the name of an error, if there is one. -/
def readErrorCode (text : List Char) : List Char × List Char :=
  match text with
  | blank :: '[' :: rest =>
    if isBlank blank then
      match spanOf (· != ']') rest with
      | (first :: code, ']' :: after) => (blank :: '[' :: first :: (code ++ [']']), after)
      | _ => ([], text)
    else ([], text)
  | _ => ([], text)

/-- Read the word that announces an uncaught error, if it stands in front of white space. -/
def skipUncaught (text : List Char) : List Char :=
  match expect "Uncaught".toList text with
  | some after => if after.head?.any isBlank then skipBlanks after else text
  | none => text

/-- Read the first line of the report of an uncaught error: the name and the message. -/
def readUncaught (line : List Char) : Option (List Char × List Char) :=
  let (name, afterName) := spanOf isNamePart (skipUncaught line)
  if isErrorName name then
    let (code, afterCode) := readErrorCode afterName
    match afterCode with
    | ':' :: blank :: message => if isBlank blank then some (name ++ code, message) else none
    | _ => none
  else none

/-- The line of a report that names the error: the first, or the one after a heading. -/
def reportLine : List (List Char) → List Char
  | [] => []
  | [line] => line
  | first :: second :: _ => if trim first = "Uncaught:".toList then second else first

/-- The error that a printed text reports, if it is the report of an uncaught error. -/
def matchUncaught (text : List Char) : Option ErrorDescriptor :=
  let report := trim text
  (readUncaught (reportLine (rows report))).map fun (name, message) =>
    ⟨String.ofList name, String.ofList (trim message), String.ofList report⟩

/-- A text without line feeds and carriage returns at its end. -/
def withoutBreaks (text : List Char) : List Char := trimEndBy (fun c => c == '\n' || c == '\r') text

/-- The payload and line that printed text is classified as, if a rule fits. The line of a console tag must be
read. -/
def classifyText (line : Nat) (text : List Char) : Except NumeralError (Option (Nat × Payload)) :=
  if isNoise text then .ok none
  else
    match matchUncaught text with
    | some descriptor => .ok (some (line, .error descriptor))
    | none =>
      (Marker.readConsoleTag (trim text)).map (·.map fun (line, printed) =>
        (line, .console (String.ofList printed)))

/-- Classify an event. One that is classified stays as it is; printed text that fits no rule and says
something is reported. -/
def Event.classify? (event : Event) : Except NumeralError (Option Event × List Log.Record) :=
  match event.payload with
  | .raw text =>
    (classifyText event.line text.toList).map fun found =>
      match found with
      | some (line, payload) => (some { event with line, payload }, [])
      | none =>
        if isNoise text.toList then (none, [])
        else (none, [⟨.classification, .info, String.ofList (withoutBreaks text.toList)⟩])
  | _ => .ok (some event, [])

/-- Why an event cannot be classified, if it cannot. -/
def Event.fault? (event : Event) : Option NumeralError :=
  match event.classify? with
  | .ok _ => none
  | .error fault => some fault

theorem Event.classify?_of_fault? {event : Event} {fault : NumeralError} (faulty : event.fault? = some fault) :
    event.classify? = .error fault := by
  rw [fault?] at faulty
  split at faulty
  · cases faulty
  · next failed => rw [failed, Option.some.inj faulty]

/-- What is left of an event when it is classified, and what is reported: nothing, if it cannot be classified. -/
def Event.classify (event : Event) : Option Event × List Log.Record := event.classify?.toOption.getD (none, [])

theorem Event.classify_of_ok {event : Event} {found : Option Event × List Log.Record}
    (answered : event.classify? = .ok found) : event.classify = found := by
  rw [classify, answered]
  rfl

/-- Nothing is left of an event that cannot be classified. -/
theorem Event.classify_of_error {event : Event} {fault : NumeralError} (failed : event.classify? = .error fault) :
    event.classify = (none, []) := by
  rw [classify, failed]
  rfl

/-- An event of which something is left was classified. -/
theorem Event.classify?_of_classify {event classified : Event} {reports : List Log.Record}
    (result : event.classify = (some classified, reports)) :
    event.classify? = .ok (some classified, reports) := by
  cases answer : event.classify? with
  | error fault =>
    rw [classify_of_error answer] at result
    cases result
  | ok found =>
    rw [classify_of_ok answer] at result
    rw [result]

/-- The payload that printed text is classified as has a kind. -/
theorem isSome_kind?_of_classifyText {line : Nat} {text : List Char} {found : Nat × Payload}
    (result : classifyText line text = .ok (some found)) : found.2.kind?.isSome = true := by
  rw [classifyText] at result
  split at result
  · cases result
  · split at result
    · cases result
      rfl
    · rcases tag : Marker.readConsoleTag (trim text) with fault | (_ | ⟨tagged, printed⟩)
      · rw [tag] at result
        cases result
      · rw [tag] at result
        cases result
      · rw [tag] at result
        cases result
        rfl

/-- What classification leaves is classified. -/
theorem Event.isClassified_of_classify {event classified : Event} {reports : List Log.Record}
    (result : event.classify = (some classified, reports)) : classified.isClassified = true := by
  have answered := classify?_of_classify result
  rw [classify?] at answered
  split at answered
  · next text raw =>
    rcases read : classifyText event.line text.toList with fault | (_ | ⟨line, payload⟩)
    · rw [read] at answered
      cases answered
    · rw [read, Except.map] at answered
      dsimp only at answered
      split at answered <;> cases answered
    · rw [read] at answered
      cases answered
      exact isSome_kind?_of_classifyText read
  · next other =>
    cases answered
    cases payload : event.payload with
    | raw text => exact absurd payload (other text)
    | _ => simp [isClassified, payload, Payload.kind?]

end Marginalia

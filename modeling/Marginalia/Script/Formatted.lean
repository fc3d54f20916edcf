import Marginalia.Number.Numeral
import Marginalia.Script.Inspection
import Marginalia.Script.Serialized

/-! # Formatted console texts
The text of the arguments of a console call. A text in front may hold placeholders for the arguments
after it; the arguments that no placeholder takes follow, separated by blanks, texts as they are and
other values inspected. -/

namespace Marginalia.Script

/-- How the arguments of a console call are shown. -/
structure Formatter where
  /-- The level below which objects are not shown. -/
  depth : Option Int
  /-- What became of the promises. -/
  promises : Promises
  deriving Repr

namespace Formatter

/-- The inspection of an argument. -/
def inspected (formatter : Formatter) (value : Value) : List Char :=
  Inspection.inspect (.upTo formatter.depth) formatter.promises value

/-- An integer of any size. -/
def bigText (value : Int) : List Char := (toString value).toList ++ ['n']

/-- An argument as a text: objects inspected from outside, anything else as where a text is wanted. -/
def asText (formatter : Formatter) : Value → List Char
  | .number value => inspectionLayout.text value
  | .big value => bigText value
  | .list items => Inspection.inspect (.upTo (some 0)) formatter.promises (.list items)
  | .record shape members =>
    Inspection.inspect (.upTo (some 0)) formatter.promises (.record shape members)
  | .fault name message stack =>
    Inspection.inspect (.upTo (some 0)) formatter.promises (.fault name message stack)
  | .promise id => Inspection.inspect (.upTo (some 0)) formatter.promises (.promise id)
  | value => value.asText.toList

/-- An argument as the number that a reader finds in its text. -/
def asNumber (read : List Char → Binary64) : Value → List Char
  | .big value => bigText value
  | .symbol _ => inspectionLayout.text .nan
  | value => inspectionLayout.text (read value.asText.toList)

/-- The number that a value stands for. -/
def toNumber : Value → Binary64
  | .null => .zero false
  | .bool value => .ofInt (if value then 1 else 0)
  | .number value => value
  | .missing => .nan
  | value => .ofScript value.asText.toList

/-- An argument as a number. -/
def asWholeNumber : Value → List Char
  | .big value => bigText value
  | .symbol _ => inspectionLayout.text .nan
  | value => inspectionLayout.text (toNumber value)

/-- An argument serialized, if that is possible. -/
def serialized (value : Value) : List Char :=
  match Serialized.ofValue value with
  | .written text => text
  | .absent => "undefined".toList
  | .refused => "[Circular]".toList

/-- The text of a placeholder with its argument, by its letter. -/
def placeholder? (formatter : Formatter) (letter : Char) (value : Value) : Option (List Char) :=
  match letter with
  | 's' => some (formatter.asText value)
  | 'j' => some (serialized value)
  | 'd' => some (asWholeNumber value)
  | 'i' => some (asNumber Binary64.leadingInteger value)
  | 'f' => some (asNumber Binary64.leadingDecimal value)
  | 'O' => some (formatter.inspected value)
  | 'o' => some (Inspection.inspect ⟨some 4, true⟩ formatter.promises value)
  | 'c' => some []
  | _ => none

/-- Fill in the placeholders of a text; the arguments that are left come with it. -/
def fill (formatter : Formatter) : List Char → List Value → List Char × List Value
  | '%' :: letter :: rest, values =>
    if letter = '%' then
      let (filled, left) := formatter.fill rest values
      ('%' :: filled, left)
    else
      match values with
      | [] =>
        let (filled, left) := formatter.fill rest []
        ('%' :: letter :: filled, left)
      | value :: others =>
        match formatter.placeholder? letter value with
        | some text =>
          let (filled, left) := formatter.fill rest others
          (text ++ filled, left)
        | none =>
          let (filled, left) := formatter.fill rest (value :: others)
          ('%' :: letter :: filled, left)
  | c :: rest, values =>
    let (filled, left) := formatter.fill rest values
    (c :: filled, left)
  | [], values => ([], values)

/-- An argument that no placeholder takes. -/
def plain (formatter : Formatter) : Value → List Char
  | .text value => value.toList
  | value => formatter.inspected value

/-- The text of the arguments of a console call. -/
def format (formatter : Formatter) (values : List Value) : List Char :=
  match values with
  | [] => []
  | [value] => formatter.plain value
  | .text first :: others =>
    let (filled, left) := formatter.fill first.toList others
    filled ++ left.flatMap fun value => ' ' :: formatter.plain value
  | first :: others =>
    formatter.plain first ++ others.flatMap fun value => ' ' :: formatter.plain value

end Formatter

end Marginalia.Script

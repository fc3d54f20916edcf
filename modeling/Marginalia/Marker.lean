import Marginalia.Number.Limited
import Marginalia.Number.Total
import Marginalia.Text.Blank
import Marginalia.Text.Category
import Marginalia.Text.Scan

/-! # Markers
Two marks travel through the interpreter. A *line-delta marker* is a comment in the prepared
program that says how many line breaks were removed where it stands. A *console tag* opens a printed
text and names the line of the call that printed it; the call carries that line because the prepared
program goes through the tagging console (`consoleCall`). -/

namespace Marginalia.Marker

open Text

/-- The decimal digits of a number. -/
def decimal (n : Nat) : List Char := Nat.toDigits 10 n

/-- The text in front of the number of a line-delta marker. -/
def deltaOpening : List Char := "/*`".toList

/-- The text after the number of a line-delta marker. -/
def deltaClosing : List Char := "`*/".toList

/-- The marker for a number of removed line breaks. -/
def lineDelta (delta : Nat) : List Char := deltaOpening ++ (decimal delta ++ deltaClosing)

/-- Why there is no marker for a number of line breaks. -/
inductive DeltaError where
  /-- The number is below zero. -/
  | negative (delta : Int)
  deriving DecidableEq, Repr

/-- The text of the error. -/
def DeltaError.message : DeltaError → String
  | .negative delta => s!"Line delta cannot be negative: {delta}"

/-- The marker for an integer, refused below zero. -/
def lineDelta? : Int → Except DeltaError (List Char)
  | .ofNat delta => .ok (lineDelta delta)
  | .negSucc below => .error (.negative (.negSucc below))

@[simp] theorem lineDelta?_ofNat (delta : Nat) : lineDelta? delta = .ok (lineDelta delta) := rfl

/-- Read a line-delta marker up to its digits, which may be of any script. -/
def readLineDelta : Recogniser (List Char) := fun _ text => do
  let number ← expect deltaOpening text
  let (digits, closing) := spanOf isDecimalDigit number
  if digits.isEmpty then none
  else (expect deltaClosing closing).map fun after => (digits, after)

/-- The digits of a piece scanned for line-delta markers, if it is one. -/
def pieceDigits? : Piece (List Char) → Option (List Char)
  | .char _ => none
  | .construct _ digits => some digits

/-- The digits of all line-delta markers in a text, in order. -/
def deltaDigits (text : List Char) : List (List Char) := (scan readLineDelta none text).filterMap pieceDigits?

/-- The sum of all line-delta markers in a text, of any length. -/
def deltaSum (text : List Char) : Nat := total ((deltaDigits text).map digitsValue)

/-- The sum of all line-delta markers in a text as far as it can be told: each of them must be read. -/
def deltaSum? (text : List Char) : Except NumeralError Nat := do
  let deltas ← (deltaDigits text).mapM readNumeral
  return total deltas

@[simp] theorem deltaDigits_nil : deltaDigits [] = [] := by simp [deltaDigits]

@[simp] theorem deltaSum_nil : deltaSum [] = 0 := by simp [deltaSum]

/-- The property of the global object that holds the tagging console. -/
def consoleName : List Char := "`console`".toList

/-- The beginning of a call of the tagging console: the function and, as first argument, the line. -/
def consoleCall (function : List Char) (line : Int) : List Char :=
  "global['".toList ++ consoleName ++ "'].".toList ++ function ++ "(".toList ++
    (toString line).toList ++ ", ".toList

/-- A text between the marks of a console tag. -/
def betweenTagMarks (text : List Char) : List Char := "`\x7b".toList ++ (text ++ "\x7d`".toList)

/-- The tag that opens a text printed by the call on a line. -/
def consoleTag (line : Nat) : List Char := betweenTagMarks (decimal line)

/-- Split a printed text into the digits of its console tag and the text after the tag. -/
def splitConsoleTag (text : List Char) : Option (List Char × List Char) := do
  let number ← expect "`\x7b".toList text
  let (digits, closing) := spanOf isDecimalDigit number
  if digits.isEmpty then none
  else (expect "\x7d`".toList closing).map fun printed => (digits, printed)

/-- The line of the console tag that opens a printed text and the text after the tag, if there is a tag; its
number must be read. -/
def readConsoleTag (text : List Char) : Except NumeralError (Option (Nat × List Char)) :=
  match splitConsoleTag text with
  | none => .ok none
  | some (digits, printed) => (readNumeral digits).map fun line => some (line, printed)

end Marginalia.Marker

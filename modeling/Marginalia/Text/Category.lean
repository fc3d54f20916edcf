import Marginalia.Text.CodeSet
import Marginalia.Text.DigitTable
import Marginalia.Text.IdentifierPartTable
import Marginalia.Text.IdentifierStartTable
import Marginalia.Text.PrintableTable
import Marginalia.Text.WordTable

/-! # Character categories
The categories of characters that decide where a name starts and ends (`isWord`, `isNameStart`,
`isNamePart`), which texts are identifiers (`isIdentifier`), which characters are digits and of what
value (`digitValue?`), and which are shown as they are (`isPrintable`). Each answers for ASCII
without its table. -/

namespace Marginalia.Text

/-- A letter, a digit, another numeral or the low line. -/
def isWord (c : Char) : Bool :=
  if c.toNat < 0x80 then c.isAlphanum || c == '_' else memberByFlips wordFlips c.toNat

/-- A character that may start a binding: an ASCII letter, the low line or the dollar sign. -/
def isNameStart (c : Char) : Bool := c.isAlpha || c == '_' || c == '$'

/-- A character that may continue a binding: a word character or the dollar sign. -/
def isNamePart (c : Char) : Bool := isWord c || c == '$'

/-- Every character that may start a binding may continue one. -/
theorem isNamePart_of_isNameStart {c : Char} (start : isNameStart c = true) :
    isNamePart c = true := by
  have ascii : c.isAlpha = true → c.toNat < 0x80 := by
    intro alpha
    have letters : c.isUpper = true ∨ c.isLower = true := Bool.or_eq_true_iff.1 alpha
    have value : c.toNat = c.val.toNat := rfl
    rcases letters with upper | lower
    · have bounds : c.val ≥ 'A'.val ∧ c.val ≤ 'Z'.val := of_decide_eq_true upper
      have high := UInt32.le_iff_toNat_le.1 bounds.2
      simp at high
      omega
    · have bounds : decide (c.val ≥ 'a'.val) = true ∧ decide (c.val ≤ 'z'.val) = true :=
        Bool.and_eq_true_iff.1 lower
      have high := UInt32.le_iff_toNat_le.1 (of_decide_eq_true bounds.2)
      simp at high
      omega
  simp only [isNameStart, Bool.or_eq_true, beq_iff_eq] at start
  rcases start with (alpha | rfl) | rfl
  · simp [isNamePart, isWord, ascii alpha, Char.isAlphanum, alpha]
  · decide
  · decide

/-- The value of a decimal digit of any script. -/
def digitValue? (c : Char) : Option Nat :=
  if c.toNat < 0x80 then
    if c.isDigit then some (c.toNat - '0'.toNat) else none
  else
    (digitZeros.find? fun digitZero => digitZero ≤ c.toNat && c.toNat < digitZero + 10).map (c.toNat - ·)

/-- Whether a character is a decimal digit of any script. -/
def isDecimalDigit (c : Char) : Bool := (digitValue? c).isSome

/-- Read a run of digits as a number, most significant digit first. -/
def digitsValue (digits : List Char) : Nat :=
  digits.foldl (fun value c => 10 * value + (digitValue? c).getD 0) 0

@[simp] theorem digitsValue_nil : digitsValue [] = 0 := rfl

/-- A character shown as it is in a quoted text. -/
def isPrintable (c : Char) : Bool :=
  if c.toNat < 0x80 then 0x20 ≤ c.toNat && c.toNat < 0x7F
  else memberByFlips printableFlips c.toNat

/-- A character that may start an identifier. -/
def isIdentifierStart (c : Char) : Bool :=
  if c.toNat < 0x80 then c.isAlpha || c == '_' else memberByFlips identifierStartFlips c.toNat

/-- A character that may continue an identifier. -/
def isIdentifierPart (c : Char) : Bool :=
  if c.toNat < 0x80 then c.isAlphanum || c == '_' else memberByFlips identifierPartFlips c.toNat

/-- A non-empty text whose first character may start an identifier and whose others may continue
one. -/
def isIdentifier : List Char → Bool
  | [] => false
  | first :: others => isIdentifierStart first && others.all isIdentifierPart

end Marginalia.Text

import Marginalia.Text.Category

/-! # Numerals with a digit limit
A numeral that a text holds is read as a number only if it has at most a fixed number of digits, whatever the
number is: zeros in front count too. A number is written only if it has no more digits than that. -/

namespace Marginalia

open Text

/-- The most digits that a numeral may have. -/
def digitLimit : Nat := 4300

/-- Why a numeral is not read or a number not written. -/
inductive NumeralError where
  /-- The numeral has too many digits, so many. -/
  | unreadable (digits : Nat)
  /-- The number has too many digits. -/
  | unwritable
  deriving DecidableEq, Repr

/-- The text of the error. -/
def NumeralError.message : NumeralError → String
  | .unreadable digits =>
    s!"Exceeds the limit ({digitLimit} digits) for integer string conversion: value has {digits} digits; " ++
      "use sys.set_int_max_str_digits() to increase the limit"
  | .unwritable =>
    s!"Exceeds the limit ({digitLimit} digits) for integer string conversion; " ++
      "use sys.set_int_max_str_digits() to increase the limit"

/-- Read a run of digits as a number. -/
def readNumeral (digits : List Char) : Except NumeralError Nat :=
  if digits.length ≤ digitLimit then .ok (digitsValue digits) else .error (.unreadable digits.length)

/-- Exactly the runs of at most so many digits are read, by their value. -/
theorem readNumeral_eq_ok_iff {digits : List Char} {number : Nat} :
    readNumeral digits = .ok number ↔ digits.length ≤ digitLimit ∧ digitsValue digits = number := by
  rw [readNumeral]
  split
  · next short => simp [short]
  · next long => simp [long]

/-- A run of digits that is not read has too many of them. -/
theorem readNumeral_eq_error_iff {digits : List Char} {fault : NumeralError} :
    readNumeral digits = .error fault ↔ digitLimit < digits.length ∧ fault = .unreadable digits.length := by
  rw [readNumeral]
  split
  · next short => simp [Nat.not_lt.mpr short]
  · next long => simp [Nat.not_le.mp long, eq_comm]

/-- Whether a number can be written: it has few enough digits. -/
def isWritable (number : Int) : Bool := (Nat.toDigits 10 number.natAbs).length ≤ digitLimit

end Marginalia

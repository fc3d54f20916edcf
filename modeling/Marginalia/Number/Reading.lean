import Marginalia.Number.Binary64
import Marginalia.Text.Blank
import Marginalia.Text.Category
import Marginalia.Text.Scan

/-! # Reading numbers
A number as it is given on a command line: digits of any script with an optional point, sign and
exponent, or a word for an infinity or for what is not a number. One underscore may stand between two
digits, and blanks around the number say nothing. -/

namespace Marginalia.Binary64

open Text

/-- A character in ASCII: blanks as spaces, digits by their values. -/
def plainChar (c : Char) : Char :=
  if c.toNat < 0x80 then c
  else if isBlank c then ' '
  else
    match digitValue? c with
    | some value => Char.ofNat ('0'.toNat + value)
    | none => '?'

/-- A blank around a number. -/
def isMargin (c : Char) : Bool := c == ' ' || ('\t' ≤ c && c ≤ '\r')

/-- A text without its underscores, if each stands between two digits. -/
def dropUnderscores? (afterDigit : Bool) : List Char → Option (List Char)
  | [] => some []
  | '_' :: c :: rest =>
    if afterDigit && c.isDigit then (dropUnderscores? true rest).map (c :: ·) else none
  | ['_'] => none
  | c :: rest => (dropUnderscores? c.isDigit rest).map (c :: ·)

/-- Split off a sign. -/
def splitSign : List Char → Bool × List Char
  | '-' :: rest => (true, rest)
  | '+' :: rest => (false, rest)
  | text => (false, text)

/-- Read an exponent up to the end of a text; no text is the exponent zero. -/
def readPower? : List Char → Option Int
  | [] => some 0
  | c :: rest =>
    if c = 'e' ∨ c = 'E' then
      let (negative, digits) := splitSign rest
      if digits.isEmpty || !digits.all Char.isDigit then none
      else
        let value : Int := (digitsValue digits : Nat)
        some (if negative then -value else value)
    else none

/-- Read digits with a point among them, and an exponent. -/
def readDigits? (negative : Bool) (text : List Char) : Option Binary64 := do
  let (whole, rest) := spanOf Char.isDigit text
  let (fraction, rest) := match rest with
    | '.' :: rest => spanOf Char.isDigit rest
    | rest => ([], rest)
  if whole.isEmpty && fraction.isEmpty then none
  else
    let power ← readPower? rest
    return ofDecimal negative (digitsValue (whole ++ fraction)) (power - fraction.length)

/-- Read a text as a number. -/
def read? (text : List Char) : Option Binary64 := do
  let plain ← dropUnderscores? false (trimBy isMargin (text.map plainChar))
  let (negative, unsigned) := splitSign plain
  let word := String.ofList (unsigned.map Char.toLower)
  if word = "inf" ∨ word = "infinity" then return .infinite negative
  else if word = "nan" then return .nan
  else readDigits? negative unsigned

end Marginalia.Binary64

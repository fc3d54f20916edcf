import Marginalia.Number.Shortest

/-! # Rounded decimal text
The text of a floating-point number with a given number of decimals or of significant digits. The exact
value of the number is rounded once, a tie to the even digit. -/

namespace Marginalia

namespace Binary64

/-- A significand times a power of two in units of `10 ^ -places`, rounded. -/
def roundAt (significand : Nat) (exponent places : Int) : Nat :=
  let (numerator, denominator) := scaleRatio significand 1 exponent
  let (tens, unit) := powerRatio 10 places
  roundQuotient (numerator * tens) (denominator * unit)

/-- Digits with leading zeros up to a count. -/
def padDigits (count n : Nat) : List Char :=
  let digits := Nat.toDigits 10 n
  List.replicate (count - digits.length) '0' ++ digits

/-- A point and the decimals after it; without decimals the point stands only if it is wanted. -/
def fraction (keepsPoint : Bool) (decimals : List Char) : List Char :=
  if decimals.isEmpty then (if keepsPoint then ['.'] else []) else '.' :: decimals

/-- The text of a magnitude with a number of decimals. -/
def fixedText (keepsPoint : Bool) (decimals : Nat) (significand : Nat) (exponent : Int) : List Char :=
  let digits := padDigits (decimals + 1) (roundAt significand exponent decimals)
  let whole := digits.length - decimals
  digits.take whole ++ fraction keepsPoint (digits.drop whole)

/-- The significant digits of a magnitude and the power of ten of the first of them. -/
def significantDigits (count : Nat) (significand : Nat) (exponent : Int) : List Char × Int :=
  if significand = 0 then (List.replicate count '0', 0)
  else
    let power := pointPosition significand exponent - 1
    let digits := Nat.toDigits 10 (roundAt significand exponent ((count : Int) - 1 - power))
    (digits.take count, if digits.length > count then power + 1 else power)

/-- The text of an exponent: a sign and at least two digits. -/
def exponentText (power : Int) : List Char :=
  'e' :: (if power < 0 then '-' else '+') :: padDigits 2 power.natAbs

/-- The text of a magnitude with one digit, some decimals and an exponent. -/
def scientificText (keepsPoint : Bool) (decimals : Nat) (significand : Nat) (exponent : Int) :
    List Char :=
  let (digits, power) := significantDigits (decimals + 1) significand exponent
  digits.take 1 ++ fraction keepsPoint (digits.drop 1) ++ exponentText power

/-- A text of decimals without the zeros at its end. -/
def dropEndZeros (digits : List Char) : List Char := (digits.reverse.dropWhile (· == '0')).reverse

/-- The text of a magnitude with a number of significant digits, positional if the exponent is from
-4 on and below that number. -/
def generalText (keepsPoint : Bool) (precision : Nat) (significand : Nat) (exponent : Int) :
    List Char :=
  let (digits, power) := significantDigits precision significand exponent
  let shorten (decimals : List Char) : List Char :=
    if keepsPoint then decimals else dropEndZeros decimals
  if power < -4 ∨ (precision : Int) ≤ power then
    digits.take 1 ++ fraction keepsPoint (shorten (digits.drop 1)) ++ exponentText power
  else if power < 0 then
    '0' :: fraction keepsPoint (shorten (List.replicate (-power - 1).toNat '0' ++ digits))
  else
    let whole := (power + 1).toNat
    digits.take whole ++ fraction keepsPoint (shorten (digits.drop whole))

end Binary64

end Marginalia

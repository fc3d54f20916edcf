import Marginalia.Number.Binary64

/-! # Shortest decimal text
The text of a floating-point number has the fewest digits that still round to the number, and of
those the nearest. The digits are found on decimal grids of 1, 2, … 17 digits: the first grid with a
point in the interval of the reals that round to the number wins. How the digits are laid out is one
`NumberLayout`. -/

namespace Marginalia

/-- A positive decimal number `digits * 10 ^ exponent`. -/
structure DecimalDigits where
  /-- The significant digits, read as one integer. -/
  digits : Nat
  /-- The power of ten of the last digit. -/
  exponent : Int
  deriving DecidableEq, Repr, Inhabited

/-- Drop the zeros at the end of the digits. -/
def DecimalDigits.dropZeros (decimal : DecimalDigits) : DecimalDigits :=
  go (Nat.toDigits 10 decimal.digits).length decimal
where
  /-- Drop at most a number of zeros. -/
  go : Nat → DecimalDigits → DecimalDigits
    | 0, decimal => decimal
    | fuel + 1, ⟨digits, exponent⟩ =>
      if digits ≠ 0 ∧ digits % 10 = 0 then go fuel ⟨digits / 10, exponent + 1⟩
      else ⟨digits, exponent⟩

/-- A power with an integer exponent, as a fraction. -/
def powerRatio (base : Nat) : Int → Nat × Nat
  | .ofNat n => (base.pow n, 1)
  | .negSucc n => (1, base.pow (n + 1))

/-- The position of the decimal point of a positive number: the least power of ten above it. -/
def pointPosition (significand : Nat) (exponent : Int) : Int :=
  let estimate := ((Nat.log2 significand : Int) + exponent) * 30103 / 100000
  let (numerator, denominator) := Binary64.scaleRatio significand 1 exponent
  let isAbove (position : Int) : Bool :=
    let (tens, unit) := powerRatio 10 position
    numerator * unit < tens * denominator
  ([estimate - 1, estimate, estimate + 1].find? isAbove).getD (estimate + 2)

/-- The point of the grid `10 ^ position` that rounds to a positive number and is nearest to it, if
there is one. Bounds count quarters of the distance between neighbours. -/
def gridPoint? (significand : Nat) (exponent position : Int) : Option DecimalDigits :=
  let quarters : Int := 4 * significand
  let lower := quarters - (if significand = Nat.pow 2 52 ∧ exponent > Binary64.leastExponent then 1 else 2)
  let upper := quarters + 2
  let (twos, halves) := powerRatio 2 (exponent - 2)
  let (tens, tenths) := powerRatio 10 position
  let onGrid (digits : Int) : Int := digits * tens * halves
  let offGrid (quarters : Int) : Int := quarters * twos * tenths
  let inside (digits : Int) : Bool :=
    if significand % 2 = 0 then offGrid lower ≤ onGrid digits && onGrid digits ≤ offGrid upper
    else offGrid lower < onGrid digits && onGrid digits < offGrid upper
  let below := offGrid quarters / (tens * halves)
  let above := below + 1
  let chosen? :=
    match decide (0 < below) && inside below, inside above with
    | true, true =>
      let downward := offGrid quarters - onGrid below
      let upward := onGrid above - offGrid quarters
      if downward < upward || (downward == upward && below % 2 == 0) then some below else some above
    | true, false => some below
    | false, true => some above
    | false, false => none
  chosen?.map fun digits => ⟨digits.toNat, position⟩

/-- The shortest decimal that rounds to a positive number, nearest to it among those. -/
def shortestDecimal (significand : Nat) (exponent : Int) : DecimalDigits :=
  let point := pointPosition significand exponent
  let found := (List.range 17).findSome? fun count =>
    gridPoint? significand exponent (point - (count + 1 : Nat))
  (found.getD ⟨0, 0⟩).dropZeros

/-- How a number is laid out as text. -/
structure NumberLayout where
  /-- The least position of the point written without an exponent. -/
  leastPoint : Int
  /-- The greatest position of the point written without an exponent. -/
  greatestPoint : Int
  /-- Whether a whole number written without an exponent keeps a point and a zero. -/
  keepsPoint : Bool
  /-- The least number of digits of an exponent. -/
  exponentWidth : Nat
  /-- Whether the sign of a negative zero is written. -/
  signsZero : Bool
  /-- The text of the positive infinity. -/
  infinity : String
  /-- The text of what is not a number. -/
  nan : String
  deriving Repr

namespace NumberLayout

/-- Lay out the digits of a positive number. -/
def layDigits (layout : NumberLayout) (decimal : DecimalDigits) : List Char :=
  let digits := Nat.toDigits 10 decimal.digits
  let point : Int := digits.length + decimal.exponent
  if layout.leastPoint ≤ point ∧ point ≤ layout.greatestPoint then
    if point ≤ 0 then
      '0' :: '.' :: (List.replicate (-point).toNat '0' ++ digits)
    else if point < digits.length then
      digits.take point.toNat ++ '.' :: digits.drop point.toNat
    else
      digits ++ List.replicate (point.toNat - digits.length) '0' ++
        (if layout.keepsPoint then ['.', '0'] else [])
  else
    let power := point - 1
    let powerDigits := Nat.toDigits 10 power.natAbs
    let mantissa :=
      match digits with
      | first :: second :: others => first :: '.' :: second :: others
      | few => few
    mantissa ++ 'e' :: (if power < 0 then '-' else '+') ::
      (List.replicate (layout.exponentWidth - powerDigits.length) '0' ++ powerDigits)

/-- The text of a number. -/
def text (layout : NumberLayout) : Binary64 → List Char
  | .nan => layout.nan.toList
  | .infinite negative => (if negative then ['-'] else []) ++ layout.infinity.toList
  | .finite negative significand exponent =>
    if significand = 0 then
      (if negative && layout.signsZero then ['-'] else []) ++
        (if layout.keepsPoint then "0.0".toList else ['0'])
    else
      (if negative then ['-'] else []) ++ layout.layDigits (shortestDecimal significand exponent)

end NumberLayout

/-- Numbers in diagnostics and settings: a point always, an exponent of two digits from `10 ^ 16` on
and below `10 ^ -4`. -/
def diagnosticLayout : NumberLayout := ⟨-3, 16, true, 2, true, "inf", "nan"⟩

/-- Numbers of the interpreter: no needless point, an exponent from `10 ^ 21` on and below
`10 ^ -6`. -/
def scriptLayout : NumberLayout := ⟨-5, 21, false, 1, false, "Infinity", "NaN"⟩

/-- Numbers the interpreter inspects: as elsewhere, with the sign of a negative zero. -/
def inspectionLayout : NumberLayout := { scriptLayout with signsZero := true }

end Marginalia

/-! # Binary floating-point numbers
The numbers of the wire format that are not integers. A finite number is a sign, a significand below
`2 ^ 53` and a power of two; `ofRatio` rounds a fraction to the nearest of them, a tie to the even
significand, in exact arithmetic. -/

namespace Marginalia

/-- A binary floating-point number of double precision. -/
inductive Binary64 where
  /-- `significand * 2 ^ exponent`, with its sign. -/
  | finite (negative : Bool) (significand : Nat) (exponent : Int)
  /-- An infinity. -/
  | infinite (negative : Bool)
  /-- Not a number. -/
  | nan
  deriving DecidableEq, Repr, Inhabited

namespace Binary64

/-- Zero, with its sign. -/
def zero (negative : Bool) : Binary64 := .finite negative 0 0

/-- The least exponent of a finite number. -/
def leastExponent : Int := -1074

/-- The greatest exponent of a finite number. -/
def greatestExponent : Int := 971

/-- Whether a number is zero, of either sign. -/
def isZero : Binary64 → Bool
  | .finite _ significand _ => significand == 0
  | _ => false

/-- Whether a number lies above zero. -/
def isPositive : Binary64 → Bool
  | .finite negative significand _ => !negative && significand != 0
  | .infinite negative => !negative
  | .nan => false

/-- Whether a number is zero or lies below. -/
def isAtMostZero : Binary64 → Bool
  | .nan => false
  | number => !number.isPositive

/-- A fraction times a power of two, as a fraction. -/
def scaleRatio (numerator denominator : Nat) (power : Int) : Nat × Nat :=
  match power with
  | .ofNat n => (numerator * Nat.pow 2 n, denominator)
  | .negSucc n => (numerator, denominator * Nat.pow 2 (n + 1))

/-- A quotient rounded to the nearest integer, a tie to the even one. -/
def roundQuotient (numerator denominator : Nat) : Nat :=
  let quotient := numerator / denominator
  let twiceRest := 2 * (numerator % denominator)
  if twiceRest > denominator || (twiceRest == denominator && quotient % 2 == 1) then quotient + 1
  else quotient

/-- The exponent at which a positive fraction has a significand of 53 bits, or the least one. -/
def exponentFor (numerator denominator : Nat) : Int :=
  let estimate : Int := (Nat.log2 numerator : Int) - Nat.log2 denominator - 52
  let (scaled, unit) := scaleRatio numerator denominator (-estimate)
  max leastExponent (if scaled < unit * Nat.pow 2 52 then estimate - 1 else estimate)

/-- The number nearest to a fraction with a positive denominator. -/
def ofRatio (negative : Bool) (numerator denominator : Nat) : Binary64 :=
  if numerator = 0 then zero negative
  else
    let exponent := exponentFor numerator denominator
    let (scaled, unit) := scaleRatio numerator denominator (-exponent)
    let significand := roundQuotient scaled unit
    let (significand, exponent) :=
      if significand = Nat.pow 2 53 then (Nat.pow 2 52, exponent + 1) else (significand, exponent)
    if significand = 0 then zero negative
    else if exponent > greatestExponent then .infinite negative
    else .finite negative significand exponent

/-- The number nearest to `digits * 10 ^ exponent`. -/
def ofDecimal (negative : Bool) (digits : Nat) (exponent : Int) : Binary64 :=
  if digits = 0 then zero negative
  else
    let magnitude : Int := (Nat.toDigits 10 digits).length + exponent
    if magnitude > 400 then .infinite negative
    else if magnitude < -400 then zero negative
    else
      match exponent with
      | .ofNat n => ofRatio negative (digits * Nat.pow 10 n) 1
      | .negSucc n => ofRatio negative digits (Nat.pow 10 (n + 1))

/-- The number nearest to an integer. -/
def ofInt (value : Int) : Binary64 := ofRatio (value < 0) value.natAbs 1

/-- A number times a positive integer, rounded to the nearest number. -/
def times (number : Binary64) (factor : Nat) : Binary64 :=
  match number with
  | .finite negative significand exponent =>
    let (numerator, denominator) := scaleRatio (significand * factor) 1 exponent
    ofRatio negative numerator denominator
  | other => other

/-- Whether a number is at least as large as an integer. -/
def reaches (number : Binary64) (bound : Nat) : Bool :=
  match number with
  | .finite negative significand exponent =>
    let (numerator, denominator) := scaleRatio significand 1 exponent
    if negative then bound == 0 && numerator == 0 else bound * denominator ≤ numerator
  | .infinite negative => !negative
  | .nan => false

/-- The integer equal to a finite number without a fractional part. -/
def toInt? : Binary64 → Option Int
  | .finite negative significand exponent =>
    let (numerator, denominator) := scaleRatio significand 1 exponent
    if numerator % denominator = 0 then
      let magnitude : Int := (numerator / denominator : Nat)
      some (if negative then -magnitude else magnitude)
    else none
  | _ => none

end Binary64

end Marginalia

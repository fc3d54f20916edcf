import Marginalia.Number.Reading

/-! # Numbers in scripts
A text as the number a script takes it for: the whole text (`ofScript`), its longest decimal beginning
(`leadingDecimal`) or the longest beginning that is a whole number (`leadingInteger`). A text that is
no number gives what is not a number. -/

namespace Marginalia.Binary64

open Text

/-- The value of a digit of a radix up to sixteen. -/
def radixDigit? (radix : Nat) (c : Char) : Option Nat :=
  let value? :=
    if c.isDigit then some (c.toNat - '0'.toNat)
    else if 'a' ≤ c.toLower ∧ c.toLower ≤ 'f' then some (c.toLower.toNat - 'a'.toNat + 10)
    else none
  value?.filter (· < radix)

/-- The value of a run of digits of a radix. -/
def radixValue (radix : Nat) (digits : List Char) : Nat :=
  digits.foldl (fun value c => radix * value + (radixDigit? radix c).getD 0) 0

/-- The radix that a letter after a zero announces. -/
def announcedRadix? (c : Char) : Option Nat :=
  if c = 'x' ∨ c = 'X' then some 16
  else if c = 'o' ∨ c = 'O' then some 8
  else if c = 'b' ∨ c = 'B' then some 2
  else none

/-- The word for an infinity. -/
def infinityWord : List Char := "Infinity".toList

/-- Read a decimal number with an optional sign. -/
def readDecimal (text : List Char) : Binary64 :=
  let (negative, unsigned) := splitSign text
  if unsigned = infinityWord then .infinite negative else (readDigits? negative unsigned).getD .nan

/-- The number that a whole text stands for; blanks around it say nothing, and no text is zero. -/
def ofScript (text : List Char) : Binary64 :=
  match trimBy isScriptBlank text with
  | [] => zero false
  | '0' :: letter :: digits =>
    match announcedRadix? letter with
    | some radix =>
      if digits.isEmpty || !digits.all fun c => (radixDigit? radix c).isSome then .nan
      else ofRatio false (radixValue radix digits) 1
    | none => readDecimal ('0' :: letter :: digits)
  | body => readDecimal body

/-- The longest exponent in front of a text. -/
def leadingPower (text : List Char) : List Char :=
  match text with
  | mark :: rest =>
    if mark = 'e' ∨ mark = 'E' then
      let (signs, digits) :=
        match rest with
        | '-' :: digits => (['-'], digits)
        | '+' :: digits => (['+'], digits)
        | digits => ([], digits)
      match digits.takeWhile Char.isDigit with
      | [] => []
      | power => mark :: (signs ++ power)
    else []
  | [] => []

/-- The number in front of a text, after its blanks. -/
def leadingDecimal (text : List Char) : Binary64 :=
  let (negative, unsigned) := splitSign (trimStartBy isScriptBlank text)
  if (expect infinityWord unsigned).isSome then .infinite negative
  else
    let (whole, afterWhole) := spanOf Char.isDigit unsigned
    let fraction :=
      match afterWhole with
      | '.' :: rest => '.' :: rest.takeWhile Char.isDigit
      | _ => []
    let afterFraction := afterWhole.drop fraction.length
    (readDigits? negative (whole ++ fraction ++ leadingPower afterFraction)).getD .nan

/-- The whole number in front of a text, after its blanks; one after a zero and an `x` is hexadecimal. -/
def leadingInteger (text : List Char) : Binary64 :=
  let (negative, unsigned) := splitSign (trimStartBy isScriptBlank text)
  let (radix, body) :=
    match unsigned with
    | '0' :: letter :: rest => if letter = 'x' ∨ letter = 'X' then (16, rest) else (10, unsigned)
    | _ => (10, unsigned)
  match body.takeWhile fun c => (radixDigit? radix c).isSome with
  | [] => .nan
  | digits => ofRatio negative (radixValue radix digits) 1

/-- The greatest integer that is not above a finite number. -/
def floor? : Binary64 → Option Int
  | .finite negative significand exponent =>
    let (numerator, denominator) := scaleRatio significand 1 exponent
    let magnitude : Int := numerator
    some (Int.fdiv (if negative then -magnitude else magnitude) denominator)
  | _ => none

end Marginalia.Binary64

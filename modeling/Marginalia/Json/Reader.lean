import Marginalia.Json.Value
import Marginalia.Text.Scan

/-! # Reading wire values
A text is read as one wire value with blanks around it (`read?`). A name given twice in an object
keeps its first place and its last value. The dialect says whether the words for infinities and for
what is not a number are values. -/

namespace Marginalia.Json

open Text

/-- Which words are values besides the standard ones. -/
structure Dialect where
  /-- Whether `NaN`, `Infinity` and `-Infinity` are numbers. -/
  nonFinite : Bool
  deriving DecidableEq, Repr

/-- The dialect of the channel from the host. -/
def channelDialect : Dialect := ⟨true⟩

/-- The dialect of the channel to the host. -/
def strictDialect : Dialect := ⟨false⟩

/-- A blank between the parts of a value. -/
def isGap (c : Char) : Bool := c == ' ' || c == '\t' || c == '\n' || c == '\r'

/-- The text after its leading blanks. -/
def skipGap (text : List Char) : List Char := text.dropWhile isGap

/-- The value of a hexadecimal digit. -/
def hexValue? (c : Char) : Option Nat :=
  if c.isDigit then some (c.toNat - '0'.toNat)
  else if 'a' ≤ c ∧ c ≤ 'f' then some (c.toNat - 'a'.toNat + 10)
  else if 'A' ≤ c ∧ c ≤ 'F' then some (c.toNat - 'A'.toNat + 10)
  else none

/-- The value of four hexadecimal digits. -/
def hexValue4? (a b c d : Char) : Option Nat := do
  let a ← hexValue? a
  let b ← hexValue? b
  let c ← hexValue? c
  let d ← hexValue? d
  return ((a * 16 + b) * 16 + c) * 16 + d

/-- The character that a short escape stands for. -/
def shortEscape? (c : Char) : Option Char :=
  match c with
  | '"' => some '"'
  | '\\' => some '\\'
  | '/' => some '/'
  | 'b' => some (Char.ofNat 0x8)
  | 'f' => some (Char.ofNat 0xC)
  | 'n' => some '\n'
  | 'r' => some '\r'
  | 't' => some '\t'
  | _ => none

/-- Read the inside of a quoted text and its closing quote, as code points and UTF-16 units. -/
def readUnits : List Char → Option (List Nat × List Char)
  | [] => none
  | '"' :: rest => some ([], rest)
  | '\\' :: 'u' :: a :: b :: c :: d :: rest => do
    let unit ← hexValue4? a b c d
    let (units, after) ← readUnits rest
    return (unit :: units, after)
  | '\\' :: c :: rest => do
    let escaped ← shortEscape? c
    let (units, after) ← readUnits rest
    return (escaped.toNat :: units, after)
  | c :: rest =>
    if c.toNat < 0x20 || c == '\\' then none
    else (readUnits rest).map fun (units, after) => (c.toNat :: units, after)

/-- The character of a code point. A surrogate without its partner is none, so the replacement character stands
in for it: texts hold characters only. -/
def unitChar (unit : Nat) : Char := if 0xD800 ≤ unit ∧ unit < 0xE000 then '\uFFFD' else Char.ofNat unit

/-- Join the surrogate pairs of a list of code points and UTF-16 units. -/
def joinUnits : List Nat → List Char
  | [] => []
  | [unit] => [unitChar unit]
  | high :: low :: units =>
    if 0xD800 ≤ high ∧ high < 0xDC00 ∧ 0xDC00 ≤ low ∧ low < 0xE000 then
      Char.ofNat (0x10000 + (high - 0xD800) * 0x400 + (low - 0xDC00)) :: joinUnits units
    else unitChar high :: joinUnits (low :: units)

/-- Read the inside of a quoted text and its closing quote. -/
def readText (text : List Char) : Option (String × List Char) :=
  (readUnits text).map fun (units, after) => (String.ofList (joinUnits units), after)

/-- The value of a run of ASCII digits. -/
def decimalValue (digits : List Char) : Nat :=
  digits.foldl (fun value c => 10 * value + (c.toNat - '0'.toNat)) 0

/-- Read the digits after a point, if a point with digits follows. -/
def readFraction : List Char → Option (List Char × List Char)
  | '.' :: rest =>
    match spanOf Char.isDigit rest with
    | ([], _) => none
    | found => some found
  | _ => none

/-- Split off the sign of a number. -/
def readSign : List Char → Bool × List Char
  | '-' :: rest => (true, rest)
  | '+' :: rest => (false, rest)
  | rest => (false, rest)

/-- Read an exponent, if there is one with digits. -/
def readExponent : List Char → Option (Int × List Char)
  | c :: rest =>
    if c = 'e' ∨ c = 'E' then
      let (negative, digits) := readSign rest
      match spanOf Char.isDigit digits with
      | ([], _) => none
      | (digits, after) =>
        let value : Int := decimalValue digits
        some (if negative then -value else value, after)
    else none
  | [] => none

/-- Read the digits in front of a point; a zero stands alone. -/
def readWhole : List Char → Option (List Char × List Char)
  | '0' :: rest => some (['0'], rest)
  | text =>
    match spanOf Char.isDigit text with
    | ([], _) => none
    | found => some found

/-- Read a number. -/
def readNumber (text : List Char) : Option (Json × List Char) := do
  let (negative, unsigned) :=
    match text with
    | '-' :: rest => (true, rest)
    | _ => (false, text)
  let (whole, afterWhole) ← readWhole unsigned
  let (fraction, afterFraction) := (readFraction afterWhole).getD ([], afterWhole)
  match fraction, readExponent afterFraction with
  | [], none =>
    let value : Int := decimalValue whole
    return (.int (if negative then -value else value), afterWhole)
  | fraction, exponent? =>
    let (exponent, after) := exponent?.getD (0, afterFraction)
    return (.real (Binary64.ofDecimal negative (decimalValue (whole ++ fraction))
      (exponent - fraction.length)), after)

/-- The words that are values of a dialect. -/
def Dialect.words (dialect : Dialect) : List (String × Json) :=
  [("null", .null), ("true", .bool true), ("false", .bool false)] ++
    if dialect.nonFinite then
      [("NaN", .real .nan), ("Infinity", .real (.infinite false)),
        ("-Infinity", .real (.infinite true))]
    else []

/-- Read a word that is a value. -/
def readWord (dialect : Dialect) (text : List Char) : Option (Json × List Char) :=
  dialect.words.findSome? fun (word, value) =>
    (expect word.toList text).map fun after => (value, after)

mutual

/-- Read a value at the front of a text, with a bound on the nesting. -/
def readValue (dialect : Dialect) : Nat → List Char → Option (Json × List Char)
  | 0, _ => none
  | fuel + 1, text =>
    match text with
    | '"' :: rest => (readText rest).map fun (value, after) => (.str value, after)
    | '[' :: rest =>
      match skipGap rest with
      | ']' :: after => some (.list [], after)
      | first => (readItems dialect fuel first).map fun (items, after) => (.list items, after)
    | '{' :: rest =>
      match skipGap rest with
      | '}' :: after => some (.object [], after)
      | first =>
        (readMembers dialect fuel [] first).map fun (members, after) => (.object members, after)
    | _ => (readWord dialect text).or (readNumber text)

/-- Read the values of a list and its closing bracket. -/
def readItems (dialect : Dialect) : Nat → List Char → Option (List Json × List Char)
  | 0, _ => none
  | fuel + 1, text => do
    let (item, after) ← readValue dialect fuel text
    match skipGap after with
    | ',' :: rest =>
      let (items, after) ← readItems dialect fuel (skipGap rest)
      return (item :: items, after)
    | ']' :: after => return ([item], after)
    | _ => none

/-- Read the members of an object and its closing brace, given the members read before. -/
def readMembers (dialect : Dialect) :
    Nat → List (String × Json) → List Char → Option (List (String × Json) × List Char)
  | 0, _, _ => none
  | fuel + 1, members, text => do
    let inside ← expect ['"'] text
    let (name, after) ← readText inside
    let after ← expect [':'] (skipGap after)
    let (value, after) ← readValue dialect fuel (skipGap after)
    let members := setMember members name value
    match skipGap after with
    | ',' :: rest => readMembers dialect fuel members (skipGap rest)
    | '}' :: after => return (members, after)
    | _ => none

end

/-- Read a whole text as one value. -/
def read? (dialect : Dialect) (text : List Char) : Option Json :=
  match readValue dialect (text.length + 1) (skipGap text) with
  | some (value, after) => if (skipGap after).isEmpty then some value else none
  | none => none

end Marginalia.Json

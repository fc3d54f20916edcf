import Marginalia.Script.Value
import Marginalia.Text.Quoted

/-! # Serialized values
A script value in the wire format without blanks, as far as the format can hold it: what it cannot hold
is left out of records and null in lists, and a value that is nothing else has no text (`absent`). An
integer of any size and a value inside itself cannot be serialized at all (`refused`). -/

namespace Marginalia.Script

open Text

/-- What comes of serializing a value. -/
inductive Serialized where
  /-- The value, or a part of it, cannot be serialized. -/
  | refused
  /-- The value has no text. -/
  | absent
  /-- The text of the value. -/
  | written (text : List Char)
  deriving DecidableEq, Repr

namespace Serialized

/-- One character between quotes. -/
def escapeChar (c : Char) : List Char :=
  if c = '"' ∨ c = '\\' then ['\\', c]
  else if c = '\n' then ['\\', 'n']
  else if c = '\r' then ['\\', 'r']
  else if c = '\t' then ['\\', 't']
  else if c.toNat = 0x8 then ['\\', 'b']
  else if c.toNat = 0xC then ['\\', 'f']
  else if c.toNat < 0x20 then '\\' :: 'u' :: hexPadded 4 c.toNat
  else [c]

/-- A text between double quotes. -/
def ofText (text : String) : List Char := '"' :: (text.toList.flatMap escapeChar ++ ['"'])

/-- A number; one that is not finite is null. -/
def ofNumber : Binary64 → List Char
  | .finite negative significand exponent => scriptLayout.text (.finite negative significand exponent)
  | _ => "null".toList

/-- Whether a record says itself that it has no text. -/
def isSilent (shape : Shape) (members : List (String × Value)) : Bool :=
  shape == .mute || (Value.record shape members).hasMethod "toJSON"

/-- The texts of the parts, separated by commas. -/
def joined : List (List Char) → List Char
  | [] => []
  | [part] => part
  | part :: parts => part ++ ',' :: joined parts

mutual

/-- Serialize a value. -/
def ofValue : Value → Serialized
  | .missing | .symbol _ | .function _ => .absent
  | .null => .written "null".toList
  | .bool value => .written (if value then "true" else "false").toList
  | .number value => .written (ofNumber value)
  | .big _ => .refused
  | .text value => .written (ofText value)
  | .list items =>
    match ofItems items with
    | some parts => .written ('[' :: (joined parts ++ [']']))
    | none => .refused
  | .record shape members =>
    if isSilent shape members then .absent
    else if shape = .circular then .refused
    else
      match ofMembers members with
      | some parts => .written ('{' :: (joined parts ++ ['}']))
      | none => .refused
  | .fault name _ _ => .written ("\x7b\"name\":".toList ++ ofText name ++ ['}'])
  | .promise _ => .written ['{', '}']

/-- Serialize the items of a list; an item without text is null. -/
def ofItems : List Value → Option (List (List Char))
  | [] => some []
  | item :: items =>
    match ofValue item, ofItems items with
    | .written text, some parts => some (text :: parts)
    | .absent, some parts => some ("null".toList :: parts)
    | _, _ => none

/-- Serialize the members of a record; a member without text is left out. -/
def ofMembers : List (String × Value) → Option (List (List Char))
  | [] => some []
  | (name, value) :: members =>
    match ofValue value, ofMembers members with
    | .written text, some parts => some ((ofText name ++ ':' :: text) :: parts)
    | .absent, some parts => some parts
    | _, _ => none

end

/-- The text, if there is one. -/
def text? : Serialized → Option (List Char)
  | .written text => some text
  | _ => none

end Serialized

end Marginalia.Script

import Marginalia.Json.Value
import Marginalia.Number.Limited
import Marginalia.Text.Quoted

/-! # Writing wire values
The text of a wire value is pure ASCII: everything else is written as escapes of UTF-16 units. A line
of the channel has a space after each comma and colon (`render`); a report for readers breaks and
indents its lines (`renderIndented`). An integer with too many digits cannot be written (`isWritten`). -/

namespace Marginalia.Json

open Text

/-- The escape of one UTF-16 unit. -/
def unitEscape (unit : Nat) : List Char := '\\' :: 'u' :: hexPadded 4 unit

/-- One character between quotes, in ASCII. -/
def escapeChar (c : Char) : List Char :=
  if c = '"' then ['\\', '"']
  else if c = '\\' then ['\\', '\\']
  else if c = '\n' then ['\\', 'n']
  else if c = '\r' then ['\\', 'r']
  else if c = '\t' then ['\\', 't']
  else if c.toNat = 0x8 then ['\\', 'b']
  else if c.toNat = 0xC then ['\\', 'f']
  else if 0x20 ≤ c.toNat ∧ c.toNat < 0x7F then [c]
  else if c.toNat < 0x10000 then unitEscape c.toNat
  else
    let offset := c.toNat - 0x10000
    unitEscape (0xD800 + offset / 0x400) ++ unitEscape (0xDC00 + offset % 0x400)

/-- A text between double quotes, in ASCII. -/
def renderText (text : String) : List Char := '"' :: (text.toList.flatMap escapeChar ++ ['"'])

/-- Numbers on the wire. -/
def wireLayout : NumberLayout := { diagnosticLayout with infinity := "Infinity", nan := "NaN" }

/-- The text of a value without parts. -/
def renderAtom : Json → List Char
  | .null => "null".toList
  | .bool value => (if value then "true" else "false").toList
  | .int value => (toString value).toList
  | .real value => wireLayout.text value
  | .str value => renderText value
  | .list _ | .object _ => []

mutual

/-- The text of a value on one line. -/
def render : Json → List Char
  | .list items => '[' :: (renderItems items ++ [']'])
  | .object members => '{' :: (renderMembers members ++ ['}'])
  | atom => renderAtom atom

/-- The texts of several values, separated by commas. -/
def renderItems : List Json → List Char
  | [] => []
  | [item] => item.render
  | item :: items => item.render ++ ", ".toList ++ renderItems items

/-- The texts of several members, separated by commas. -/
def renderMembers : List (String × Json) → List Char
  | [] => []
  | [(name, value)] => renderText name ++ ": ".toList ++ value.render
  | (name, value) :: members =>
    renderText name ++ ": ".toList ++ value.render ++ ", ".toList ++ renderMembers members

end

mutual

/-- Whether a value can be written: all its integers can. -/
def isWritten : Json → Bool
  | .int value => isWritable value
  | .list items => areWritten items
  | .object members => areWrittenMembers members
  | _ => true

/-- Whether several values can be written. -/
def areWritten : List Json → Bool
  | [] => true
  | item :: items => item.isWritten && areWritten items

/-- Whether the values of several members can be written. -/
def areWrittenMembers : List (String × Json) → Bool
  | [] => true
  | (_, value) :: members => value.isWritten && areWrittenMembers members

end

/-- A line break and the indentation of a depth. -/
def lineStart (depth : Nat) : List Char := '\n' :: List.replicate (2 * depth) ' '

mutual

/-- The text of a value at a depth, one part a line. -/
def renderIndented (depth : Nat) : Json → List Char
  | .list [] => "[]".toList
  | .object [] => "\x7b\x7d".toList
  | .list items => '[' :: (indentItems (depth + 1) items ++ lineStart depth ++ [']'])
  | .object members => '{' :: (indentMembers (depth + 1) members ++ lineStart depth ++ ['}'])
  | atom => renderAtom atom

/-- The texts of several values at a depth, each on lines of its own. -/
def indentItems (depth : Nat) : List Json → List Char
  | [] => []
  | [item] => lineStart depth ++ item.renderIndented depth
  | item :: items =>
    lineStart depth ++ item.renderIndented depth ++ ',' :: indentItems depth items

/-- The texts of several members at a depth, each on lines of its own. -/
def indentMembers (depth : Nat) : List (String × Json) → List Char
  | [] => []
  | [(name, value)] =>
    lineStart depth ++ renderText name ++ ": ".toList ++ value.renderIndented depth
  | (name, value) :: members =>
    lineStart depth ++ renderText name ++ ": ".toList ++ value.renderIndented depth ++
      ',' :: indentMembers depth members

end

end Marginalia.Json

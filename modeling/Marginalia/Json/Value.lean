import Marginalia.Number.Shortest
import Marginalia.Text.Quoted

/-! # Wire values
The values of the wire format. Integers are kept apart from the other numbers and have any size; an
object keeps its members in the order in which their names first came. `Json.literal` is the text of a
value inside a diagnostic, `Json.asText` the text a value stands for where a text is wanted. -/

namespace Marginalia

open Text

/-- A value of the wire format. -/
inductive Json where
  /-- No value. -/
  | null
  /-- A truth value. -/
  | bool (value : Bool)
  /-- An integer. -/
  | int (value : Int)
  /-- A number with a point or an exponent. -/
  | real (value : Binary64)
  /-- A text. -/
  | str (value : String)
  /-- A list of values. -/
  | list (items : List Json)
  /-- Named values. -/
  | object (members : List (String × Json))
  deriving Repr, Inhabited

namespace Json

/-- The member of a name in a list of members. -/
def member? (members : List (String × Json)) (name : String) : Option Json :=
  (members.find? (·.1 == name)).map (·.2)

/-- Set a member: the name keeps its place if it has one and comes last otherwise. -/
def setMember : List (String × Json) → String → Json → List (String × Json)
  | [], name, value => [(name, value)]
  | (first, old) :: members, name, value =>
    if first = name then (name, value) :: members
    else (first, old) :: setMember members name value

/-- The member of a name, if the value is an object that has it. -/
def get? : Json → String → Option Json
  | .object members, name => member? members name
  | _, _ => none

/-- Whether a value counts as true: anything but null, false, zero and what is empty. -/
def isTruthy : Json → Bool
  | .null => false
  | .bool value => value
  | .int value => value != 0
  | .real value => !value.isZero
  | .str value => !value.isEmpty
  | .list items => !items.isEmpty
  | .object members => !members.isEmpty

mutual

/-- The text of a value inside a diagnostic. -/
def literal : Json → List Char
  | .null => "None".toList
  | .bool value => (if value then "True" else "False").toList
  | .int value => (toString value).toList
  | .real value => diagnosticLayout.text value
  | .str value => quoted value.toList
  | .list items => '[' :: (literalItems items ++ [']'])
  | .object members => '{' :: (literalMembers members ++ ['}'])

/-- The texts of several values, separated by commas. -/
def literalItems : List Json → List Char
  | [] => []
  | [item] => item.literal
  | item :: items => item.literal ++ ", ".toList ++ literalItems items

/-- The texts of several members, separated by commas. -/
def literalMembers : List (String × Json) → List Char
  | [] => []
  | [(name, value)] => quoted name.toList ++ ": ".toList ++ value.literal
  | (name, value) :: members =>
    quoted name.toList ++ ": ".toList ++ value.literal ++ ", ".toList ++ literalMembers members

end

/-- The text of a value inside a diagnostic, as a string. -/
def diagnostic (value : Json) : String := String.ofList value.literal

/-- The text a value stands for: a text itself, anything else as in a diagnostic. -/
def asText : Json → String
  | .str value => value
  | value => value.diagnostic

@[simp] theorem asText_str (value : String) : (Json.str value).asText = value := rfl

end Json

end Marginalia

import Marginalia.Json.Value
import Marginalia.Number.Shortest

/-! # Script values
The values that a script computes, as far as they can be told apart from outside. A promise is known by
its number, and what became of it is not part of the value. The members of a record stand in the order
in which a script goes through them: whole-number names first, in increasing order (`inScriptOrder`). -/

namespace Marginalia.Script

/-- What kind of record an object is. -/
inductive Shape where
  /-- An object of no class of its own. -/
  | plain
  /-- An object of a class. -/
  | ofClass (name : String)
  /-- An object that inherits nothing. -/
  | bare
  /-- An object of no class with one more member, `self`, that is the object itself. -/
  | circular
  /-- An object of no class that refuses to be serialized. -/
  | mute
  deriving DecidableEq, Repr

/-- A value of a script. -/
inductive Value where
  /-- The missing value. -/
  | missing
  /-- No object. -/
  | null
  /-- A truth value. -/
  | bool (value : Bool)
  /-- A number. -/
  | number (value : Binary64)
  /-- An integer of any size. -/
  | big (value : Int)
  /-- A text. -/
  | text (value : String)
  /-- A symbol. -/
  | symbol (name : String)
  /-- A function. -/
  | function (name : String)
  /-- A list of values. -/
  | list (items : List Value)
  /-- Named values. -/
  | record (shape : Shape) (members : List (String × Value))
  /-- An error object. -/
  | fault (name message stack : String)
  /-- A promise. -/
  | promise (id : Nat)
  deriving Repr, Inhabited

/-- The number that a name is the canonical text of, if it counts as a position in a list. -/
def position? (name : String) : Option Nat :=
  let digits := name.toList
  if digits.isEmpty || !digits.all Char.isDigit then none
  else
    let value := digits.foldl (fun value c => 10 * value + (c.toNat - '0'.toNat)) 0
    if Nat.toDigits 10 value = digits ∧ value + 1 < Nat.pow 2 32 then some value else none

/-- Put a member with a position where it belongs among members in increasing order. -/
def insertByPosition {α : Type} (position : Nat) (member : α) :
    List (Nat × α) → List (Nat × α)
  | [] => [(position, member)]
  | (other, value) :: members =>
    if position < other then (position, member) :: (other, value) :: members
    else (other, value) :: insertByPosition position member members

/-- The members with whole-number names in increasing order, and then the others as they come. -/
def inScriptOrder {α : Type} (members : List (String × α)) : List (String × α) :=
  let positioned := members.filterMap fun member => (position? member.1).map fun p => (p, member)
  let sorted := positioned.foldl (fun sorted (p, member) => insertByPosition p member sorted) []
  sorted.map (·.2) ++ members.filter fun member => (position? member.1).isNone

namespace Value

/-- A record whose members are put in order. -/
def ofMembers (shape : Shape) (members : List (String × Value)) : Value :=
  .record shape (inScriptOrder members)

mutual

/-- A wire value as a value of a script. -/
def ofJson : Json → Value
  | .null => .null
  | .bool value => .bool value
  | .int value => .number (.ofInt value)
  | .real value => .number value
  | .str value => .text value
  | .list items => .list (ofItems items)
  | .object members => .ofMembers .plain (ofJsonMembers members)

/-- Several wire values as values of a script. -/
def ofItems : List Json → List Value
  | [] => []
  | item :: items => ofJson item :: ofItems items

/-- The members of a wire object as members of a record. -/
def ofJsonMembers : List (String × Json) → List (String × Value)
  | [] => []
  | (name, value) :: members => (name, ofJson value) :: ofJsonMembers members

end

/-- The name of the type of a value; lists and the null value have names of their own. -/
def typeName : Value → String
  | .missing => "undefined"
  | .null => "null"
  | .bool _ => "boolean"
  | .number _ => "number"
  | .big _ => "bigint"
  | .text _ => "string"
  | .symbol _ => "symbol"
  | .function _ => "function"
  | .list _ => "array"
  | .record .. | .fault .. | .promise _ => "object"

/-- Whether a value counts as true. -/
def isTruthy : Value → Bool
  | .missing | .null => false
  | .bool value => value
  | .number .nan => false
  | .number value => !value.isZero
  | .big value => value != 0
  | .text value => !value.isEmpty
  | _ => true

/-- Whether a value is the missing one. -/
def isMissing : Value → Bool
  | .missing => true
  | _ => false

/-- The member of a name, if an object has it. -/
def member? : Value → String → Option Value
  | .record _ members, name => (members.find? (·.1 == name)).map (·.2)
  | .fault errorName message stack, name =>
    if name = "name" then some (.text errorName)
    else if name = "message" then some (.text message)
    else if name = "stack" then some (.text stack)
    else none
  | _, _ => none

/-- The member of a name, or the missing value. -/
def member (value : Value) (name : String) : Value := (value.member? name).getD .missing

/-- Whether a member of a name is a function. -/
def hasMethod (value : Value) (name : String) : Bool :=
  match value.member name with
  | .function _ => true
  | _ => false

/-- Whether a value is something to wait for. -/
def isThenable : Value → Bool
  | .promise _ => true
  | value => value.hasMethod "then"

/-- The name and the message of an error object in one line. -/
def faultSummary (name message : String) : String :=
  if name.isEmpty then message
  else if message.isEmpty then name
  else name ++ ": " ++ message

/-- The error of a value that is not of the type that is wanted. -/
def typeFault (message : String) : Value := .fault "TypeError" message ("TypeError: " ++ message)

/-- What is thrown where an object is taken for a text and has none. -/
def objectFault : Value := typeFault "Cannot convert object to primitive value"

/-- What is thrown where a symbol stands among the items of a list that is taken for a text. -/
def symbolFault : Value := typeFault "Cannot convert a Symbol value to a string"

/-- The text of an object that does not say how it is taken for a text. -/
def objectText : String := "[object Object]"

/-- The text of what a function of a script answers: it answers nothing. -/
def missingText : String := "undefined"

/-- The text that a record is taken for: what it does itself in order to be taken for a text comes before
what it inherits, and a bare record inherits nothing. -/
def recordText (shape : Shape) (members : List (String × Value)) : Except Value String :=
  let own (name : String) : Option Value := (members.find? (·.1 == name)).map (·.2)
  let byValue : Except Value String :=
    match own "valueOf" with
    | some (.function _) => .ok missingText
    | _ => .error objectFault
  match own "toString" with
  | some (.function _) => .ok missingText
  | some _ => byValue
  | none => if shape = .bare then byValue else .ok objectText

/-- The text of an item of a list, which is taken for a text by itself: a missing one and a null have none. -/
def itemText (item : Value) (text : Except Value String) : Except Value String :=
  match item with
  | .missing | .null => .ok ""
  | .symbol _ => .error symbolFault
  | _ => text

mutual

/-- Take a value for a text. Not every object has one. -/
def toText : Value → Except Value String
  | .missing => .ok missingText
  | .null => .ok "null"
  | .bool value => .ok (if value then "true" else "false")
  | .number value => .ok (String.ofList (scriptLayout.text value))
  | .big value => .ok (toString value)
  | .text value => .ok value
  | .symbol name => .ok ("Symbol(" ++ name ++ ")")
  | .function name => .ok ("function " ++ name ++ "() \x7b \x7d")
  | .list items => joinedItems items
  | .record shape members => recordText shape members
  | .fault name message _ => .ok (faultSummary name message)
  | .promise _ => .ok "[object Promise]"

/-- The texts of the items of a list, separated by commas. -/
def joinedItems : List Value → Except Value String
  | [] => .ok ""
  | [item] => itemText item item.toText
  | item :: items => do
    let first ← itemText item item.toText
    let others ← joinedItems items
    .ok (first ++ "," ++ others)

end

/-- The text that a value is taken for where a text is wanted; an object that has none is taken for any
object. -/
def asText (value : Value) : String := value.toText.toOption.getD objectText

/-- The first of two values that counts as true, or else the second. -/
def orElse (first second : Value) : Value := if first.isTruthy then first else second

@[simp] theorem toText_text (value : String) : (Value.text value).toText = .ok value := by
  simp [toText]

@[simp] theorem asText_text (value : String) : (Value.text value).asText = value := by
  simp [asText, Except.toOption]

end Value

end Marginalia.Script

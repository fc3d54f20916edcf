import Marginalia.Json.Reader

/-! # Rounded wire values
A wire value as a reader without exact integers takes it: every number is rounded to a binary
floating-point number and written again, and one that is not finite is null. -/

namespace Marginalia.Json

/-- Integers up to this size are floating-point numbers themselves. -/
def exactLimit : Nat := Nat.pow 2 53

/-- A floating-point number as a wire value. -/
def ofBinary64 (value : Binary64) : Json :=
  (read? strictDialect (scriptLayout.text value)).getD .null

mutual

/-- Round the numbers of a value. -/
def rounded : Json → Json
  | .int value => if value.natAbs ≤ exactLimit then .int value else ofBinary64 (.ofInt value)
  | .real value => ofBinary64 value
  | .list items => .list (roundedItems items)
  | .object members => .object (roundedMembers members)
  | atom => atom

/-- Round the numbers of several values. -/
def roundedItems : List Json → List Json
  | [] => []
  | item :: items => item.rounded :: roundedItems items

/-- Round the numbers of several members. -/
def roundedMembers : List (String × Json) → List (String × Json)
  | [] => []
  | (name, value) :: members => (name, value.rounded) :: roundedMembers members

end

/-- A small integer is not rounded. -/
theorem rounded_int {value : Int} (small : value.natAbs ≤ exactLimit) :
    (Json.int value).rounded = .int value := by
  simp [rounded, small]

end Marginalia.Json

/-! # Totals
The sum of a list of natural numbers, by recursion on the list. -/

namespace Marginalia

/-- The sum of some numbers. -/
def total : List Nat → Nat
  | [] => 0
  | number :: numbers => number + total numbers

@[simp] theorem total_nil : total [] = 0 := rfl

@[simp] theorem total_cons (number : Nat) (numbers : List Nat) :
    total (number :: numbers) = number + total numbers := rfl

@[simp] theorem total_append (first second : List Nat) :
    total (first ++ second) = total first + total second := by
  induction first with
  | nil => simp
  | cons number numbers ih => simp [ih, Nat.add_assoc]

end Marginalia

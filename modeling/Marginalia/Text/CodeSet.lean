/-! # Sets of code points
A set of code points is given by the ascending points at which membership changes: the set starts
at the first point, ends before the second, starts again at the third, and so on. -/

namespace Marginalia.Text

/-- Whether a code point belongs to the set whose membership changes at the given points. -/
def memberByFlips : List Nat → Nat → Bool
  | [], _ => false
  | point :: points, code => if code < point then false else !memberByFlips points code

@[simp] theorem memberByFlips_nil (code : Nat) : memberByFlips [] code = false := rfl

end Marginalia.Text

import Marginalia.Marker
import Marginalia.Text.Line

/-! # Logical lines
The prepared document is fed line by line. Each of its lines carries the number of the physical line
on which it starts: the count goes on by one for the line itself and by the breaks that its markers
say were removed from it. A document with a marker that cannot be read has no plan (`planLines?`);
`planLines` is the plan where that makes no difference. -/

namespace Marginalia

open Text

/-- One line to feed. -/
structure LogicalLine where
  /-- The physical line on which it starts. -/
  line : Int
  /-- Its text. -/
  code : List Char
  /-- The physical lines folded into it. -/
  collapsed : Nat
  deriving DecidableEq, Repr

/-- Number lines on from a physical line. -/
def numberLines : Int → List (List Char) → List LogicalLine
  | _, [] => []
  | line, code :: codes =>
    let collapsed := Marker.deltaSum code
    ⟨line, code, collapsed⟩ :: numberLines (line + 1 + collapsed) codes

@[simp] theorem length_numberLines (line : Int) (codes : List (List Char)) :
    (numberLines line codes).length = codes.length := by
  induction codes generalizing line with
  | nil => rfl
  | cons code codes ih => simp [numberLines, ih]

@[simp] theorem map_code_numberLines (line : Int) (codes : List (List Char)) :
    (numberLines line codes).map LogicalLine.code = codes := by
  induction codes generalizing line with
  | nil => rfl
  | cons code codes ih => simp [numberLines, ih]

/-- The logical lines of a prepared document whose first physical line has the given number. -/
def planLines (code : List Char) (firstLine : Int) : List LogicalLine :=
  numberLines firstLine (physicalLines code)

/-- Number lines on from a physical line, if all their markers can be read. -/
def numberLines? : Int → List (List Char) → Except NumeralError (List LogicalLine)
  | _, [] => .ok []
  | line, code :: codes => do
    let collapsed ← Marker.deltaSum? code
    let others ← numberLines? (line + 1 + collapsed) codes
    return ⟨line, code, collapsed⟩ :: others

/-- The logical lines of a prepared document, if all its markers can be read. -/
def planLines? (code : List Char) (firstLine : Int) : Except NumeralError (List LogicalLine) :=
  numberLines? firstLine (physicalLines code)

/-- The physical line after a logical line. -/
def LogicalLine.next (logical : LogicalLine) : Int := logical.line + 1 + logical.collapsed

end Marginalia

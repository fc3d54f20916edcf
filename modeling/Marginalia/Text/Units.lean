import Marginalia.Number.Total

/-! # Sizes of texts
How long a text is when it is laid out: in UTF-16 units, the measure in which lines are filled, or in
columns of a terminal, the measure in which entries are aligned. -/

namespace Marginalia.Text

/-- The number of UTF-16 units of a character. -/
def charUnits (c : Char) : Nat := if c.toNat < 0x10000 then 1 else 2

/-- The number of UTF-16 units of a text. -/
def unitCount (text : List Char) : Nat := total (text.map charUnits)

@[simp] theorem unitCount_nil : unitCount [] = 0 := rfl

@[simp] theorem unitCount_append (first second : List Char) :
    unitCount (first ++ second) = unitCount first + unitCount second := by
  simp [unitCount]

/-- The longest beginning of a text with at most a number of UTF-16 units. -/
def takeUnits : Nat → List Char → List Char
  | _, [] => []
  | room, c :: rest =>
    if charUnits c ≤ room then c :: takeUnits (room - charUnits c) rest else []

/-- The ranges of the characters that fill two columns, by first and last code point. -/
def wideRanges : List (Nat × Nat) :=
  [(0x1100, 0x115F), (0x2329, 0x232A), (0x2E80, 0x303E), (0x3040, 0x3247), (0x3250, 0x4DBF),
    (0x4E00, 0xA4C6), (0xA960, 0xA97C), (0xAC00, 0xD7A3), (0xF900, 0xFAFF), (0xFE10, 0xFE19),
    (0xFE30, 0xFE6B), (0xFF01, 0xFF60), (0xFFE0, 0xFFE6), (0x1B000, 0x1B001), (0x1F200, 0x1F251),
    (0x1F300, 0x1F64F), (0x20000, 0x3FFFD)]

/-- The number of columns of a character. -/
def charColumns (c : Char) : Nat :=
  if wideRanges.any fun (first, last) => first ≤ c.toNat && c.toNat ≤ last then 2 else 1

/-- The number of columns of a text. -/
def columnCount (text : List Char) : Nat := total (text.map charColumns)

end Marginalia.Text

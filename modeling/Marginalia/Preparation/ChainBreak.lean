import Marginalia.Marker
import Marginalia.Text.Blank
import Marginalia.Text.Scan

/-! # Chain breaks
The interpreter takes a line that starts with a dot for a command of its own, so a call chain that
goes on in the next line is joined to the line before. The line breaks taken out are recorded in a
line-delta marker where they stood. -/

namespace Marginalia.Preparation

open Text

/-- Read blanks and line breaks as far as they go: the number of line breaks and the text after
them. -/
def readBreaks : List Char → Nat × List Char
  | [] => (0, [])
  | '\n' :: rest => ((readBreaks rest).1 + 1, (readBreaks rest).2)
  | '\r' :: '\n' :: rest => ((readBreaks rest).1 + 1, (readBreaks rest).2)
  | c :: rest => if isIndent c then readBreaks rest else (0, c :: rest)

@[simp] theorem readBreaks_nil : readBreaks [] = (0, []) := rfl

/-- Read the blanks and line breaks in front of a dot, with at least one line break: their number. -/
def readChainBreak : Recogniser Nat := fun _ text =>
  match readBreaks text with
  | (breaks + 1, '.' :: rest) => some (breaks + 1, '.' :: rest)
  | _ => none

/-- Join every call chain of a text that goes on in another line. -/
def joinChains (text : List Char) : List Char :=
  replace readChainBreak (fun _ breaks => ' ' :: Marker.lineDelta breaks) text

@[simp] theorem joinChains_nil : joinChains [] = [] := by simp [joinChains]

end Marginalia.Preparation

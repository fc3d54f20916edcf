/-! # White space
The blank characters of a source text, and the texts obtained by removing them at the ends or by
cutting at them. Removal is stated for any class of characters (`trimBy`), because the interpreter
and the reader of its output disagree on a few control characters; `trim` uses the class `isBlank`. -/

namespace Marginalia.Text

/-- White space: the separators of Unicode, the ASCII controls from tab to carriage return and from
file separator to unit separator, and the next-line control. -/
def isBlank (c : Char) : Bool :=
  let code := c.toNat
  (0x9 ≤ code && code ≤ 0xD) || (0x1C ≤ code && code ≤ 0x20) || code == 0x85 || code == 0xA0 ||
    code == 0x1680 || (0x2000 ≤ code && code ≤ 0x200A) || code == 0x2028 || code == 0x2029 ||
    code == 0x202F || code == 0x205F || code == 0x3000

/-- White space as the interpreter trims it: like `isBlank` with the byte order mark and without
the next-line control and the four separator controls. -/
def isScriptBlank (c : Char) : Bool :=
  let code := c.toNat
  (0x9 ≤ code && code ≤ 0xD) || code == 0x20 || code == 0xA0 || code == 0x1680 ||
    (0x2000 ≤ code && code ≤ 0x200A) || code == 0x2028 || code == 0x2029 || code == 0x202F ||
    code == 0x205F || code == 0x3000 || code == 0xFEFF

/-- A space or a tab, the blanks that may stand inside one line before a chained call. -/
def isIndent (c : Char) : Bool := c == ' ' || c == '\t'

/-- The text after its leading characters of a class. -/
def trimStartBy (drops : Char → Bool) (text : List Char) : List Char := text.dropWhile drops

/-- The text before its trailing characters of a class. -/
def trimEndBy (drops : Char → Bool) (text : List Char) : List Char :=
  (text.reverse.dropWhile drops).reverse

/-- The text without leading and trailing characters of a class. -/
def trimBy (drops : Char → Bool) (text : List Char) : List Char :=
  trimEndBy drops (trimStartBy drops text)

/-- The text without white space at its ends. -/
def trim (text : List Char) : List Char := trimBy isBlank text

/-- The text without white space at its end. -/
def trimEnd (text : List Char) : List Char := trimEndBy isBlank text

/-- The text after its leading white space. -/
def skipBlanks (text : List Char) : List Char := text.dropWhile isBlank

@[simp] theorem skipBlanks_nil : skipBlanks [] = [] := rfl

@[simp] theorem trimBy_nil (drops : Char → Bool) : trimBy drops [] = [] := rfl

/-- Cut a text at every run of white space; words are never empty. -/
def words (text : List Char) : List (List Char) :=
  go text []
where
  /-- Collect the current word in reverse. -/
  go : List Char → List Char → List (List Char)
    | [], [] => []
    | [], word => [word.reverse]
    | c :: rest, word =>
      if isBlank c then
        if word.isEmpty then go rest [] else word.reverse :: go rest []
      else go rest (c :: word)

/-- A string without white space at its ends. -/
def strip (text : String) : String := String.ofList (trim text.toList)

/-- A string without white space at its end. -/
def stripEnd (text : String) : String := String.ofList (trimEnd text.toList)

end Marginalia.Text

/-! # Lines
A document is cut into *physical lines* at line feeds, each with the carriage return before it
(`splitLines`, undone by `joinLines`); the two texts have the same line numbers everywhere. *Rows*
are the finer cut used when a text is shown (`rows`): they also end at lone carriage returns and at
the other separators of lines, and a break at the very end starts no row. -/

namespace Marginalia.Text

/-- Put a character in front of the first of several texts. -/
def consHead (c : Char) : List (List Char) → List (List Char)
  | [] => [[c]]
  | text :: texts => (c :: text) :: texts

@[simp] theorem consHead_cons (c : Char) (text : List Char) (texts : List (List Char)) :
    consHead c (text :: texts) = (c :: text) :: texts := rfl

/-- The physical lines of a text and the breaks between them. -/
def splitLines : List Char → List (List Char) × List (List Char)
  | [] => ([[]], [])
  | '\n' :: rest => ([] :: (splitLines rest).1, ['\n'] :: (splitLines rest).2)
  | '\r' :: '\n' :: rest => ([] :: (splitLines rest).1, ['\r', '\n'] :: (splitLines rest).2)
  | c :: rest => (consHead c (splitLines rest).1, (splitLines rest).2)

/-- The physical lines of a text. -/
def physicalLines (text : List Char) : List (List Char) := (splitLines text).1

@[simp] theorem splitLines_nil : splitLines [] = ([[]], []) := rfl

/-- Put each line in front of its break, as long as there are lines. -/
def joinLines : List (List Char) → List (List Char) → List Char
  | [], _ => []
  | line :: lines, [] => line ++ joinLines lines []
  | line :: lines, ending :: endings => line ++ (ending ++ joinLines lines endings)

@[simp] theorem joinLines_nil (endings : List (List Char)) : joinLines [] endings = [] := rfl

/-- A character that ends a row. -/
def isRowBreak (c : Char) : Bool :=
  let code := c.toNat
  (0xA ≤ code && code ≤ 0xD) || (0x1C ≤ code && code ≤ 0x1E) || code == 0x85 ||
    code == 0x2028 || code == 0x2029

/-- The rows of a text. -/
def rows : List Char → List (List Char)
  | [] => []
  | '\r' :: '\n' :: rest => [] :: rows rest
  | c :: rest => if isRowBreak c then [] :: rows rest else consHead c (rows rest)

@[simp] theorem rows_nil : rows [] = [] := rfl

/-- The number of line feeds in a text. -/
def lineFeeds (text : List Char) : Nat := text.count '\n'

@[simp] theorem lineFeeds_nil : lineFeeds [] = 0 := rfl

@[simp] theorem lineFeeds_append (first second : List Char) :
    lineFeeds (first ++ second) = lineFeeds first + lineFeeds second := by
  simp [lineFeeds]

/-- A text with every line break replaced by one space. -/
def oneLine : List Char → List Char
  | [] => []
  | '\n' :: rest => ' ' :: oneLine rest
  | '\r' :: '\n' :: rest => ' ' :: oneLine rest
  | c :: rest => c :: oneLine rest

@[simp] theorem oneLine_nil : oneLine [] = [] := rfl

/-- A text with a lone line feed for every line break, lone carriage returns included. -/
def normalizeBreaks : List Char → List Char
  | [] => []
  | '\r' :: '\n' :: rest => '\n' :: normalizeBreaks rest
  | c :: rest => (if c = '\r' then '\n' else c) :: normalizeBreaks rest

end Marginalia.Text

/-! # Scanning for constructs
A *recogniser* reads one construct at the front of a text, given the character before it. `scan`
walks a text from the left and cuts it into *pieces*: wherever the recogniser reads a construct the
whole construct is one piece, and every other character stands alone. No text is lost or invented
(`flatMap_text_scan`), so a change to a text is a choice of replacement for each recognised piece. -/

namespace Marginalia.Text

/-- Reads a construct at the front of a text: what it means and the text after it. The first
argument is the character before that text, if there is one. -/
abbrev Recogniser (α : Type) := Option Char → List Char → Option (α × List Char)

/-- A piece of a scanned text. -/
inductive Piece (α : Type) where
  /-- A character at which no construct starts. -/
  | char (c : Char)
  /-- A construct, as written and as read. -/
  | construct (written : List Char) (value : α)
  deriving DecidableEq, Repr

/-- The text of a piece as it was written. -/
def Piece.text {α : Type} : Piece α → List Char
  | .char c => [c]
  | .construct written _ => written

@[simp] theorem Piece.text_char {α : Type} (c : Char) : (Piece.char c : Piece α).text = [c] := rfl

@[simp] theorem Piece.text_construct {α : Type} (written : List Char) (value : α) :
    (Piece.construct written value).text = written := rfl

/-- Cut a text into pieces from the left; a construct must take at least one character. -/
def scan {α : Type} (recognise : Recogniser α) (before : Option Char) : List Char → List (Piece α)
  | [] => []
  | c :: rest =>
    match recognise before (c :: rest) with
    | some (value, after) =>
      if after.length ≤ rest.length then
        let taken := rest.length - after.length
        .construct (c :: rest.take taken) value ::
          scan recognise (some ((rest.take taken).getLastD c)) (rest.drop taken)
      else .char c :: scan recognise (some c) rest
    | none => .char c :: scan recognise (some c) rest
termination_by text => text.length
decreasing_by all_goals (simp only [List.length_drop, List.length_cons]; omega)

@[simp] theorem scan_nil {α : Type} (recognise : Recogniser α) (before : Option Char) :
    scan recognise before [] = [] := by
  simp [scan]

/-- The pieces of a text, put together, are the text. -/
theorem flatMap_text_scan {α : Type} (recognise : Recogniser α) (before : Option Char)
    (text : List Char) : (scan recognise before text).flatMap Piece.text = text := by
  fun_induction scan recognise before text with
  | case1 => rfl
  | case2 before c rest value after _ _ taken ih =>
    rw [List.flatMap_cons, ih]
    simp
  | case3 before c rest value after _ _ ih => simp [ih]
  | case4 before c rest _ ih => simp [ih]

/-- Replace each recognised construct of a text and keep everything else. -/
def replace {α : Type} (recognise : Recogniser α) (render : List Char → α → List Char)
    (text : List Char) : List Char :=
  (scan recognise none text).flatMap fun
    | .char c => [c]
    | .construct written value => render written value

@[simp] theorem replace_nil {α : Type} (recognise : Recogniser α)
    (render : List Char → α → List Char) : replace recognise render [] = [] := by
  simp [replace]

/-- The text after a fixed beginning, if the text starts with it. -/
def expect : List Char → List Char → Option (List Char)
  | [], text => some text
  | _ :: _, [] => none
  | wanted :: more, c :: rest => if c = wanted then expect more rest else none

@[simp] theorem expect_nil (text : List Char) : expect [] text = some text := by
  cases text <;> rfl

/-- A text starts with a beginning exactly when it is that beginning and what is read after it. -/
theorem expect_eq_some_iff {wanted text after : List Char} :
    expect wanted text = some after ↔ text = wanted ++ after := by
  fun_induction expect wanted text with
  | case1 text => simp [eq_comm]
  | case2 => simp
  | case3 _ _ _ ih => simp [ih]
  | case4 wanted more c rest different => simp [different]

/-- The longest beginning of a text made of characters of a class, and the text after it. -/
def spanOf (inside : Char → Bool) (text : List Char) : List Char × List Char :=
  (text.takeWhile inside, text.dropWhile inside)

/-- The two parts of a span are the text. -/
@[simp] theorem spanOf_append (inside : Char → Bool) (text : List Char) :
    (spanOf inside text).1 ++ (spanOf inside text).2 = text :=
  List.takeWhile_append_dropWhile

end Marginalia.Text

import Marginalia.Margin
import Marginalia.Text.Line

/-! # Annotated source
A source text with its margin beside it: every row of the text in its order, and after a row that has an
annotation a comment with it. The comments of all rows start in one column, behind the longest row. -/

namespace Marginalia

open Text

/-- The mark in front of the short text of an annotation. -/
def OutputKind.mark : OutputKind → List Char
  | .expression => []
  | .terminal => ['>', ' ']
  | .error => ['!', ' ']

/-- The comment that shows an annotation. -/
def Annotation.comment (shown : Annotation) : List Char :=
  "  // ".toList ++ (shown.kind.mark ++ shown.short.toList)

/-- A row with blanks up to a width. -/
def padRow (width : Nat) (row : List Char) : List Char :=
  row ++ List.replicate (width - row.length) ' '

/-- The length of the longest row. -/
def widestRow (rows : List (List Char)) : Nat := (rows.map List.length).foldl max 0

/-- The annotation of a line; the last one, if there are several. -/
def annotationOf? (annotations : List Annotation) (line : Nat) : Option Annotation :=
  annotations.reverse.find? (·.line == line)

/-- A row with the annotation of its line, if there is one. -/
def annotateRow (annotations : List Annotation) (width line : Nat) (row : List Char) : List Char :=
  match annotationOf? annotations line with
  | some shown => padRow width row ++ shown.comment
  | none => row

/-- The rows of a source text, annotated. -/
def annotatedRows (source : List Char) (annotations : List Annotation) : List (List Char) :=
  let width := widestRow (rows source)
  (rows source).mapIdx fun index row => annotateRow annotations width (index + 1) row

@[simp] theorem length_annotatedRows (source : List Char) (annotations : List Annotation) :
    (annotatedRows source annotations).length = (rows source).length := by
  simp [annotatedRows]

/-- The source text with its annotations. -/
def annotatedSource (source : List Char) (annotations : List Annotation) : List Char :=
  List.intercalate ['\n'] (annotatedRows source annotations)

end Marginalia

import Mathlib.Data.List.Nodup
import Marginalia.AnnotatedSource
import Marginalia.Proofs.Preparation.ImportSyntax
import Marginalia.Proofs.Text.Rows

/-! # Annotations beside their lines
An annotation belongs to a physical line, and the annotated source shows rows. Every annotation stands beside its
line (`ShownInPlace`) exactly if no row ends within a line and no annotation belongs to an empty last line, which has no
row (`annotations_in_place_iff`). Where a row ends within a line, the row with its number is too short to start with
the line: what follows in the row is blanks. -/

namespace Marginalia

open Text Preparation

/-! ## Annotated rows -/

variable {annotations : List Annotation}

/-- Where no two annotations are of one line, each is the one of its line. -/
theorem annotationOf?_of_mem (apart : (annotations.map (·.line)).Nodup) {shown : Annotation}
    (member : shown ∈ annotations) : annotationOf? annotations shown.line = some shown := by
  have known : shown ∈ annotations.reverse := List.mem_reverse.mpr member
  obtain ⟨found, isFound⟩ : ∃ found, annotationOf? annotations shown.line = some found := by
    refine Option.isSome_iff_exists.mp ?_
    rw [annotationOf?, List.find?_isSome]
    exact ⟨shown, known, beq_self_eq_true shown.line⟩
  have sameLine : found.line = shown.line := by simpa using List.find?_some isFound
  have isMember : found ∈ annotations := List.mem_reverse.mp (List.mem_of_find?_eq_some isFound)
  rw [isFound, List.inj_on_of_nodup_map apart isMember member sameLine]

/-- A row of the annotated source is a row of the source with the annotation of its line. -/
theorem getElem?_annotatedRows (source : List Char) (index : Nat) :
    (annotatedRows source annotations)[index]? =
      (rows source)[index]?.map (annotateRow annotations (widestRow (rows source)) (index + 1)) :=
  List.getElem?_mapIdx

/-- An annotation is put behind its row, with a blank first. -/
theorem exists_annotateRow (annotations : List Annotation) (width line : Nat) (row : List Char) :
    ∃ comment, annotateRow annotations width line row = row ++ comment ∧ comment.head?.all (· == ' ') = true := by
  rw [annotateRow]
  split
  · next shown _ =>
    refine ⟨List.replicate (width - row.length) ' ' ++ shown.comment, List.append_assoc .., ?_⟩
    cases width - row.length <;> rfl
  · exact ⟨[], (List.append_nil row).symm, rfl⟩

/-- The annotation of a line ends its row. -/
theorem comment_isSuffix_annotateRow {line : Nat} {shown : Annotation}
    (found : annotationOf? annotations line = some shown) (width : Nat) (row : List Char) :
    shown.comment <:+ annotateRow annotations width line row := by
  rw [annotateRow, found]
  exact List.suffix_append _ _

/-- A row that goes only up to a break within a line does not start with the line, annotated or not. -/
theorem not_isPrefix_annotateRow {c : Char} (breaks : isRowBreak c = true) (width line : Nat)
    (part rest : List Char) : ¬ part ++ c :: rest <+: annotateRow annotations width line part := by
  obtain ⟨comment, parts, blank⟩ := exists_annotateRow annotations width line part
  rw [parts, List.prefix_append_right_inj]
  rintro ⟨behind, rfl⟩
  have isSpace : c = ' ' := by simpa using blank
  rw [isSpace] at breaks
  exact absurd breaks (by decide)

/-! ## Annotations in place -/

/-- Every annotation of a source stands beside its line. -/
structure ShownInPlace (source : List Char) (annotations : List Annotation) : Prop where
  /-- Each line has a row; only an empty last line without an annotation may have none. -/
  complete : (annotatedRows source annotations).length = (physicalLines source).length ∨
    ((annotatedRows source annotations).length + 1 = (physicalLines source).length ∧
      (physicalLines source).getLast? = some [] ∧
      annotationOf? annotations (physicalLines source).length = none)
  /-- The row with the number of a line starts with the line. -/
  starts : ∀ (index : Nat) (line row : List Char), (physicalLines source)[index]? = some line →
    (annotatedRows source annotations)[index]? = some row → line <+: row
  /-- Each annotation stands at the end of the row with the number of its line, so none is lost. -/
  carries : ∀ shown ∈ annotations, ∃ row,
    (annotatedRows source annotations)[shown.line - 1]? = some row ∧ shown.comment <:+ row

/-- Where the lines of a source start their rows, no row ends within a line. -/
theorem ShownInPlace.unbroken {source : List Char} (shows : ShownInPlace source annotations) :
    ∀ line ∈ physicalLines source, Unbroken line := by
  by_contra broken
  obtain ⟨front, part, c, rest, after, lines, unbroken, beginning, breaks⟩ := exists_first_broken broken
  have cut := cut_splitLines source
  have whole := joinLines_splitLines source
  rw [show (splitLines source).1 = front ++ (part ++ c :: rest) :: after from lines] at cut whole
  obtain ⟨others, cutRows⟩ := cut.exists_rows unbroken beginning breaks
  rw [whole] at cutRows
  -- The first line within which a row ends is longer than its row.
  have isLine : (physicalLines source)[front.length]? = some (part ++ c :: rest) := by
    rw [lines, List.getElem?_append_right (Nat.le_refl _), Nat.sub_self]
    rfl
  have isRow : (rows source)[front.length]? = some part := by
    rw [cutRows, List.getElem?_append_right (Nat.le_refl _), Nat.sub_self]
    rfl
  have shown : (annotatedRows source annotations)[front.length]? = _ := getElem?_annotatedRows source front.length
  rw [isRow, Option.map_some] at shown
  exact not_isPrefix_annotateRow breaks _ _ part rest (shows.starts _ _ _ isLine shown)

/-- Where no row ends within a line, the rows are the lines, without an empty one at the end. -/
theorem rows_eq_closedLines {source : List Char} (unbroken : ∀ line ∈ physicalLines source, Unbroken line) :
    rows source = closedLines (physicalLines source) := by
  have cutRows := (cut_splitLines source).rows_eq unbroken
  rwa [joinLines_splitLines] at cutRows

/-- An annotation of a line that has a row is shown in it. -/
theorem exists_carrying_row (apart : (annotations.map (·.line)).Nodup) {source : List Char} {shown : Annotation}
    (member : shown ∈ annotations) (positive : 1 ≤ shown.line) (within : shown.line ≤ (rows source).length) :
    ∃ row, (annotatedRows source annotations)[shown.line - 1]? = some row ∧ shown.comment <:+ row := by
  have inside : shown.line - 1 < (rows source).length := by omega
  have number : shown.line - 1 + 1 = shown.line := by omega
  rw [getElem?_annotatedRows, List.getElem?_eq_getElem inside, number]
  exact ⟨_, rfl, comment_isSuffix_annotateRow (annotationOf?_of_mem apart member) _ _⟩

/-- The annotated rows hold no line feeds, if the short texts hold none. -/
theorem not_mem_of_mem_annotatedRows (whole : ∀ shown ∈ annotations, '\n' ∉ shown.short.toList)
    {source row : List Char} (member : row ∈ annotatedRows source annotations) : '\n' ∉ row := by
  obtain ⟨index, inside, rfl⟩ := List.mem_mapIdx.mp member
  have plain : '\n' ∉ (rows source)[index] := (unbroken_of_mem_rows (List.getElem_mem inside)).not_mem
  rw [annotateRow]
  split
  · next shown found =>
    have noFeed := whole shown (List.mem_reverse.mp (List.mem_of_find?_eq_some found))
    have noMark : '\n' ∉ shown.kind.mark := by cases shown.kind <;> decide
    simp [padRow, Annotation.comment, plain, noFeed, noMark]
  · exact plain

/-- **Annotations beside their lines.** For every source and all annotations of its physical lines, at most one for
each: the annotations are shown in place exactly if no row ends within a line and none of them belongs to an empty
last line. Where no row ends within a line, the rows shown are the lines, without an empty one at the end, each with
the annotation of its line if there is one. The rows are what stands between the line feeds of the text that is
shown, if no short text holds one. -/
theorem annotations_in_place_iff {source : List Char} (apart : (annotations.map (·.line)).Nodup)
    (within : ∀ shown ∈ annotations, 1 ≤ shown.line ∧ shown.line ≤ (physicalLines source).length) :
    (ShownInPlace source annotations ↔
      (∀ line ∈ physicalLines source, Unbroken line) ∧
        ((physicalLines source).getLast? = some [] →
          ∀ shown ∈ annotations, shown.line ≠ (physicalLines source).length)) ∧
    ((∀ line ∈ physicalLines source, Unbroken line) →
      annotatedRows source annotations = (closedLines (physicalLines source)).mapIdx fun index line =>
        annotateRow annotations (widestRow (closedLines (physicalLines source))) (index + 1) line) ∧
    ((∀ shown ∈ annotations, '\n' ∉ shown.short.toList) → annotatedRows source annotations ≠ [] →
      splitAtChar '\n' (annotatedSource source annotations) = annotatedRows source annotations) := by
  have some : physicalLines source ≠ [] := splitLines_ne_nil source
  have positive : 0 < (physicalLines source).length := List.length_pos_iff.mpr some
  refine ⟨⟨fun shows => ⟨shows.unbroken, fun isOpen shown member last => ?_⟩, ?_⟩, fun unbroken => ?_,
    fun whole something => ?_⟩
  · have fewer : (annotatedRows source annotations).length = (physicalLines source).length - 1 := by
      rw [length_annotatedRows, rows_eq_closedLines shows.unbroken, closedLines_of_open isOpen, List.length_dropLast]
    rcases shows.complete with same | ⟨-, -, nothing⟩
    · omega
    · rw [← last, annotationOf?_of_mem apart member] at nothing
      cases nothing
  · rintro ⟨unbroken, noneLast⟩
    have cutRows := rows_eq_closedLines unbroken
    refine ⟨?_, fun index line row isLine isRow => ?_, fun shown member => ?_⟩
    · rw [length_annotatedRows, cutRows]
      by_cases isOpen : (physicalLines source).getLast? = Option.some []
      · refine .inr ⟨?_, isOpen, ?_⟩
        · rw [closedLines_of_open isOpen, List.length_dropLast]
          omega
        · refine List.find?_eq_none.mpr fun shown member isLast => ?_
          exact noneLast isOpen shown (List.mem_reverse.mp member) (beq_iff_eq.mp isLast)
      · rw [closedLines_of_closed isOpen]
        exact .inl rfl
    · rw [getElem?_annotatedRows] at isRow
      obtain ⟨plain, known, rfl⟩ := Option.map_eq_some_iff.mp isRow
      rw [cutRows] at known
      obtain ⟨comment, parts, -⟩ := exists_annotateRow annotations (widestRow (rows source)) (index + 1) plain
      rw [parts, Option.some.inj (isLine.symm.trans (getElem?_of_closedLines known))]
      exact List.prefix_append _ _
    · obtain ⟨first, last⟩ := within shown member
      refine exists_carrying_row apart member first ?_
      rw [cutRows]
      by_cases isOpen : (physicalLines source).getLast? = Option.some []
      · have earlier := noneLast isOpen shown member
        rw [closedLines_of_open isOpen, List.length_dropLast]
        omega
      · rwa [closedLines_of_closed isOpen]
  · rw [annotatedRows, rows_eq_closedLines unbroken]
  · exact splitAtChar_intercalate something fun row member => not_mem_of_mem_annotatedRows whole member

/-- An error and a printed text beside two lines with different breaks; the empty last line has no row. -/
theorem annotations_in_place_of_two_lines :
    let source := "f(1);\r\nlog(x);\n".toList
    let annotations : List Annotation := [⟨2, .terminal, "3", "3"⟩, ⟨1, .error, "no f", "no f"⟩]
    (annotations.map (·.line)).Nodup ∧
      (∀ shown ∈ annotations, 1 ≤ shown.line ∧ shown.line ≤ (physicalLines source).length) ∧
      ShownInPlace source annotations ∧
      annotatedRows source annotations = ["f(1);    // ! no f".toList, "log(x);  // > 3".toList] := by
  intro source annotations
  have apart : (annotations.map (·.line)).Nodup := by decide
  have within : ∀ shown ∈ annotations, 1 ≤ shown.line ∧ shown.line ≤ (physicalLines source).length := by decide
  have unbroken : ∀ line ∈ physicalLines source, Unbroken line := by decide +kernel
  have noneLast : (physicalLines source).getLast? = some [] →
      ∀ shown ∈ annotations, shown.line ≠ (physicalLines source).length := by decide
  exact ⟨apart, within, (annotations_in_place_iff apart within).1.mpr ⟨unbroken, noneLast⟩, by decide +kernel⟩

/-- **Annotations out of place.** A form feed ends a row within the only line, so the row of its annotation does
not start with the line; and the annotation of an empty last line is lost. -/
theorem annotations_out_of_place :
    let note (line : Nat) : Annotation := ⟨line, .expression, "1", "1"⟩
    let broken := "a\x0cb".toList
    let isOpen := "a\n".toList
    ((physicalLines broken).length = 1 ∧ annotatedRows broken [note 1] = ["a  // 1".toList, "b".toList] ∧
        ¬ ShownInPlace broken [note 1]) ∧
      (physicalLines isOpen).length = 2 ∧ annotatedRows isOpen [note 2] = ["a".toList] ∧
        ¬ ShownInPlace isOpen [note 2] := by
  intro note broken isOpen
  have brokenRows : annotatedRows broken [note 1] = ["a  // 1".toList, "b".toList] := by decide +kernel
  have openRows : annotatedRows isOpen [note 2] = ["a".toList] := by decide +kernel
  refine ⟨⟨by decide, brokenRows, fun shows => ?_⟩, by decide, openRows, fun shows => ?_⟩
  · have starts := shows.starts 0 broken "a  // 1".toList (by decide) (by rw [brokenRows]; rfl)
    exact absurd starts (by decide)
  · obtain ⟨row, found, -⟩ := shows.carries (note 2) List.mem_cons_self
    rw [openRows] at found
    cases found

end Marginalia

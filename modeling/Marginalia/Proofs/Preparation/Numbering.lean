import Mathlib.Data.List.Induction
import Marginalia.Proofs.Preparation.Attribution

/-! # One numbering of lines
A document is numbered twice: tagging counts the physical lines and puts their numbers into the console calls,
and what is fed counts on by the markers of the folded lines. The two agree (`calls_stay_with_lines`): each
physical line belongs to exactly one logical line, and the text of a logical line is put together from the
pieces of its physical lines (`Assembled`), with every call in place and under the number of its line. -/

namespace Marginalia

open Text Preparation Marker

/-! ## Numbered pieces -/

/-- The pieces of a line: the console calls that are tagged in it, and all other characters. -/
def linePieces (functions : List (List Char)) (line : List Char) : List (Piece (List Char)) :=
  scan (readConsoleCall (calledFunctions functions)) none line

/-- A piece with the number of its line. -/
abbrev NumberedPiece := Nat × Piece (List Char)

namespace NumberedPiece

/-- The text that tagging shows for a piece. -/
def shown (piece : NumberedPiece) : List Char :=
  piece.2.shown fun _ function => consoleCall function piece.1

/-- The tagged call of a piece, if it is a call. -/
def call? : NumberedPiece → Option (List Char)
  | (_, .char _) => none
  | (number, .construct _ function) => some (consoleCall function number)

/-- Whether a piece is a blank that may go with an indentation. -/
def isIndent : NumberedPiece → Bool
  | (_, .char c) => Text.isIndent c
  | (_, .construct _ _) => false

end NumberedPiece

/-- The pieces of some lines, which are numbered on from a first number. -/
def numberedPieces (functions : List (List Char)) : Nat → List (List Char) → List NumberedPiece
  | _, [] => []
  | number, line :: lines =>
    (linePieces functions line).map (number, ·) ++ numberedPieces functions (number + 1) lines

/-- A tagged line is what is shown for its pieces. -/
theorem tagLine_eq_flatMap (functions : List (List Char)) (number : Nat) (line : List Char) :
    tagLine functions number line =
      ((linePieces functions line).map (number, ·)).flatMap NumberedPiece.shown := by
  rw [tagLine, replace_eq_flatMap, List.flatMap_map]
  rfl

/-- The pieces are those of the lines, each under the number of its line. -/
theorem mem_numberedPieces {functions lines : List (List Char)} {first number : Nat}
    {piece : Piece (List Char)} :
    (number, piece) ∈ numberedPieces functions first lines ↔
      ∃ place line, lines[place]? = some line ∧ number = first + place ∧ piece ∈ linePieces functions line := by
  induction lines generalizing first with
  | nil => simp [numberedPieces]
  | cons line lines ih =>
    rw [numberedPieces, List.mem_append, ih]
    constructor
    · rintro (here | ⟨place, other, found, rfl, inside⟩)
      · obtain ⟨_, inside, same⟩ := List.mem_map.mp here
        obtain ⟨rfl, rfl⟩ := Prod.mk.inj same
        exact ⟨0, line, rfl, rfl, inside⟩
      · exact ⟨place + 1, other, found, by omega, inside⟩
    · rintro ⟨place, other, found, rfl, inside⟩
      cases place with
      | zero =>
        obtain rfl : line = other := Option.some.inj found
        exact .inl (List.mem_map_of_mem inside)
      | succ place => exact .inr ⟨place, other, found, by omega, inside⟩

/-- The numbers never go down. -/
theorem pairwise_numberedPieces (functions : List (List Char)) (first : Nat) (lines : List (List Char)) :
    ((numberedPieces functions first lines).map (·.1)).Pairwise (· ≤ ·) := by
  induction lines generalizing first with
  | nil => exact .nil
  | cons line lines ih =>
    have same : ((linePieces functions line).map (first, ·)).map (·.1) =
        List.replicate (linePieces functions line).length first := by
      rw [List.map_map]
      exact List.map_const' ..
    rw [numberedPieces, List.map_append, same, List.pairwise_append]
    refine ⟨List.pairwise_replicate.mpr (.inr (Nat.le_refl first)), ih (first + 1), ?_⟩
    intro number here other later
    obtain rfl := List.eq_of_mem_replicate here
    obtain ⟨⟨_, piece⟩, inside, rfl⟩ := List.mem_map.mp later
    obtain ⟨place, -, -, rfl, -⟩ := mem_numberedPieces.mp inside
    omega

/-! ## Texts put together from pieces -/

/-- A text that is put together from pieces in their order: calls are tagged, blanks may be dropped, and markers
may be put in. In front of a marker stands a blank, unless the call before it ends in one. -/
inductive Assembled : List NumberedPiece → List Char → Prop where
  /-- Nothing is put together from nothing. -/
  | nil : Assembled [] []
  /-- A character is kept. -/
  | kept {number : Nat} {c : Char} {pieces : List NumberedPiece} {text : List Char}
      (rest : Assembled pieces text) : Assembled ((number, .char c) :: pieces) (c :: text)
  /-- A blank is dropped. -/
  | dropped {number : Nat} {c : Char} {pieces : List NumberedPiece} {text : List Char}
      (indent : isIndent c = true) (rest : Assembled pieces text) : Assembled ((number, .char c) :: pieces) text
  /-- A call is tagged with its own number. -/
  | call {number : Nat} {written function : List Char} {pieces : List NumberedPiece} {text : List Char}
      (rest : Assembled pieces text) :
      Assembled ((number, .construct written function) :: pieces) (consoleCall function number ++ text)
  /-- A marker is put in. -/
  | marker {gap : List Char} (blank : gap = [] ∨ gap = [' ']) (breaks : Nat) {pieces : List NumberedPiece}
      {text : List Char} (rest : Assembled pieces text) :
      Assembled pieces (gap ++ (lineDelta breaks ++ text))

/-- Texts that stand in another text one behind the other. -/
inductive InOrder : List (List Char) → List Char → Prop where
  /-- None does in any text. -/
  | nil (text : List Char) : InOrder [] text
  /-- The first one stands in front of what holds the others. -/
  | cons (before : List Char) {part : List Char} {parts : List (List Char)} {after : List Char}
      (rest : InOrder parts after) : InOrder (part :: parts) (before ++ (part ++ after))

/-- More text in front makes no difference. -/
theorem InOrder.append_left {parts : List (List Char)} {text : List Char} (ordered : InOrder parts text)
    (front : List Char) : InOrder parts (front ++ text) := by
  cases ordered with
  | nil => exact .nil _
  | cons before rest =>
    rw [← List.append_assoc]
    exact .cons (front ++ before) rest

namespace Assembled

variable {pieces : List NumberedPiece} {text : List Char}

/-- The calls stand in the text in their order. -/
theorem inOrder (assembled : Assembled pieces text) : InOrder (pieces.filterMap NumberedPiece.call?) text := by
  induction assembled with
  | nil => exact .nil []
  | @kept _ c _ _ _ ih => exact ih.append_left [c]
  | dropped _ _ ih => exact ih
  | call _ ih => exact .cons [] ih
  | marker _ breaks _ ih => exact (ih.append_left (lineDelta breaks)).append_left _

/-- Pieces in front may be shown as they are. -/
theorem shown_append (assembled : Assembled pieces text) (front : List NumberedPiece) :
    Assembled (front ++ pieces) (front.flatMap NumberedPiece.shown ++ text) := by
  induction front with
  | nil => exact assembled
  | cons piece front ih =>
    rw [List.flatMap_cons, List.append_assoc]
    match piece with
    | (_, .char _) => exact .kept ih
    | (_, .construct _ _) => exact .call ih

/-- Blanks in front may be dropped. -/
theorem of_dropWhile {front : List NumberedPiece}
    (assembled : Assembled (front.dropWhile NumberedPiece.isIndent ++ pieces) text) :
    Assembled (front ++ pieces) text := by
  induction front with
  | nil => exact assembled
  | cons piece front ih =>
    by_cases indent : piece.isIndent = true
    · rw [List.dropWhile_cons_of_pos indent] at assembled
      match piece, indent with
      | (_, .char _), indent => exact .dropped indent (ih assembled)
    · rwa [List.dropWhile_cons_of_neg indent] at assembled

end Assembled

/-! ## Pieces of folded lines -/

/-- A tagged call starts with a letter. -/
theorem exists_consoleCall_cons (function : List Char) (number : Nat) :
    ∃ others, consoleCall function number = 'g' :: others := by
  obtain ⟨middle, text, -⟩ := exists_middle function number
  exact ⟨_, text⟩

/-- A tagged call ends in a comma and a blank. -/
theorem exists_consoleCall_concat (function : List Char) (number : Nat) :
    ∃ others, consoleCall function number = others ++ [',', ' '] := ⟨_, rfl⟩

/-- Something is shown for every piece. -/
theorem eq_nil_of_flatMap_shown {pieces : List NumberedPiece}
    (nothing : pieces.flatMap NumberedPiece.shown = []) : pieces = [] := by
  cases pieces with
  | nil => rfl
  | cons piece pieces =>
    have empty := List.flatMap_eq_nil_iff.mp nothing piece List.mem_cons_self
    match piece with
    | (_, .char _) => cases empty
    | (number, .construct _ function) =>
      have none : consoleCall function number = [] := empty
      obtain ⟨others, starts⟩ := exists_consoleCall_cons function number
      rw [starts] at none
      cases none

/-- The indentation of a text is that of its pieces. -/
theorem dropWhile_flatMap_shown (pieces : List NumberedPiece) :
    (pieces.flatMap NumberedPiece.shown).dropWhile isIndent =
      (pieces.dropWhile NumberedPiece.isIndent).flatMap NumberedPiece.shown := by
  induction pieces with
  | nil => rfl
  | cons piece pieces ih =>
    match piece with
    | (number, .char c) =>
      by_cases indent : isIndent c = true
      · rw [List.dropWhile_cons_of_pos (show NumberedPiece.isIndent (number, .char c) = true from indent), ← ih]
        exact List.dropWhile_cons_of_pos indent
      · rw [List.dropWhile_cons_of_neg (show ¬ NumberedPiece.isIndent (number, .char c) = true from indent)]
        exact List.dropWhile_cons_of_neg indent
    | (number, .construct written function) =>
      obtain ⟨others, starts⟩ := exists_consoleCall_cons function number
      have text : List.flatMap NumberedPiece.shown ((number, .construct written function) :: pieces) =
          'g' :: (others ++ pieces.flatMap NumberedPiece.shown) := by
        rw [List.flatMap_cons, ← List.cons_append, ← starts]
        rfl
      rw [List.dropWhile_cons_of_neg (by simp [NumberedPiece.isIndent]), text]
      exact List.dropWhile_cons_of_neg (by decide)

/-- What is put behind a line in place of the lines folded into it: a blank and a text that is put together from
their pieces, starting with a marker. -/
def Continues (pieces : List NumberedPiece) (tail : List Char) : Prop :=
  ∃ rest, tail = ' ' :: rest ∧ ∀ gap, gap = [] ∨ gap = [' '] → Assembled pieces (gap ++ rest)

/-- What follows a line takes the place of its trailing blanks. -/
theorem Continues.assembled {pieces : List NumberedPiece} {tail : List Char} (follows : Continues pieces tail)
    (front : List NumberedPiece) :
    Assembled (front ++ pieces) (trimEndBy isIndent (front.flatMap NumberedPiece.shown) ++ tail) := by
  obtain ⟨rest, rfl, ends⟩ := follows
  -- The line is taken from its end: blanks are dropped until a character stays or a call comes.
  induction front using List.reverseRecOn generalizing pieces with
  | nil => exact ends [' '] (.inr rfl)
  | append_singleton front piece ih =>
    rw [List.flatMap_append, List.flatMap_singleton, List.append_assoc, List.singleton_append]
    match piece with
    | (number, .char c) =>
      change Assembled _ (trimEndBy isIndent (_ ++ [c]) ++ _)
      by_cases indent : isIndent c = true
      · have dropped : ∀ gap, gap = [] ∨ gap = [' '] → Assembled ((number, .char c) :: pieces) (gap ++ rest) :=
          fun gap blank => .dropped indent (ends gap blank)
        have trimmed := ih dropped
        have same : trimEndBy isIndent (front.flatMap NumberedPiece.shown ++ [c]) =
            trimEndBy isIndent (front.flatMap NumberedPiece.shown) := by simp [trimEndBy, indent]
        rwa [same]
      · rw [trimEndBy_append_of_all (Bool.eq_false_iff.mpr indent) (List.forall_mem_nil _), List.append_assoc]
        exact (Assembled.kept (ends [' '] (.inr rfl))).shown_append front
    | (number, .construct written function) =>
      obtain ⟨others, text⟩ := exists_consoleCall_concat function number
      have blank : ∀ c ∈ [' '], isIndent c = true := List.forall_mem_singleton.mpr rfl
      change Assembled _ (trimEndBy isIndent (_ ++ consoleCall function number) ++ _)
      rw [text, ← List.append_assoc, trimEndBy_append_of_all (by decide) blank]
      have called : Assembled ((number, .construct written function) :: pieces)
          (consoleCall function number ++ rest) := .call (ends [] (.inl rfl))
      have whole := called.shown_append front
      rw [text] at whole
      simpa using whole

section Folded

variable {functions : List (List Char)}

/-- A line with what follows it is put together from its pieces and those of the lines folded into it. -/
theorem assembled_attach {lines : List (List Char)} {number : Nat}
    (behind : ∀ tail, foldedTail 1 (tagLinesFrom functions number lines) = some tail →
      Continues (numberedPieces functions number (lines.take (foldedRun (tagLinesFrom functions number lines)))) tail)
    (front : List NumberedPiece) :
    Assembled (front ++
        numberedPieces functions number (lines.take (foldedRun (tagLinesFrom functions number lines))))
      (attach (front.flatMap NumberedPiece.shown) (foldedTail 1 (tagLinesFrom functions number lines))) := by
  cases folded : foldedTail 1 (tagLinesFrom functions number lines) with
  | none =>
    have kept : breakFolds (tagLinesFrom functions number lines) = false := by
      rw [← isSome_foldedTail 1, folded, Option.isSome_none]
    have whole := Assembled.nil.shown_append front
    rw [List.append_nil] at whole
    rw [foldedRun_of_kept kept, List.take_zero, attach, numberedPieces]
    rwa [List.append_nil] at whole ⊢
  | some tail => exact (behind tail folded).assembled front

/-- What is put behind a line is put together from the pieces of the lines folded into it. -/
theorem continues_foldedTail {lines : List (List Char)} {number breaks : Nat} {tail : List Char}
    (folded : foldedTail breaks (tagLinesFrom functions number lines) = some tail) :
    Continues (numberedPieces functions number (lines.take (foldedRun (tagLinesFrom functions number lines))))
      tail := by
  induction lines generalizing number breaks tail with
  | nil => cases folded
  | cons line lines ih =>
    have folds : breakFolds (tagLinesFrom functions number (line :: lines)) = true := by
      rw [← isSome_foldedTail breaks, folded, Option.isSome_some]
    rw [tagLinesFrom] at folded folds ⊢
    rw [foldedRun, if_pos folds, List.take_succ_cons, numberedPieces]
    by_cases dot : startsWithDot (tagLine functions number line) = true
    · rw [foldedTail, if_pos dot] at folded
      refine ⟨_, (Option.some.inj folded).symm, fun gap blank => .marker blank breaks (.of_dropWhile ?_)⟩
      rw [tagLine_eq_flatMap, dropWhile_flatMap_shown]
      exact assembled_attach (fun tail folded => ih folded) _
    · rw [foldedTail, if_neg dot] at folded
      by_cases blank : (tagLine functions number line).all isIndent = true
      · -- Nothing is left of a blank line, and its break is counted in the marker behind it.
        rw [if_pos blank] at folded
        obtain ⟨rest, parts, ends⟩ := ih folded
        have nothing : ((linePieces functions line).map (number, ·)).dropWhile NumberedPiece.isIndent = [] := by
          refine eq_nil_of_flatMap_shown ?_
          rw [← dropWhile_flatMap_shown, ← tagLine_eq_flatMap, dropWhile_of_all blank]
        refine ⟨rest, parts, fun gap apart => .of_dropWhile ?_⟩
        rw [nothing]
        exact ends gap apart
      · rw [if_neg blank] at folded
        cases folded

/-- **The text of a logical line** is put together from the pieces of its first line and of the lines folded into
it. -/
theorem assembled_chainText (line : List Char) (lines : List (List Char)) (number : Nat) :
    Assembled (numberedPieces functions number
        (line :: lines.take (foldedRun (tagLinesFrom functions (number + 1) lines))))
      (chainText (tagLine functions number line) (tagLinesFrom functions (number + 1) lines)) := by
  rw [numberedPieces, chainText, tagLine_eq_flatMap]
  exact assembled_attach (fun tail folded => continues_foldedTail folded) _

end Folded

/-! ## Covered lines -/

namespace LogicalLine

/-- A logical line covers the physical line on which it starts and those folded into it. -/
def Covers (logical : LogicalLine) (number : Int) : Prop :=
  logical.line ≤ number ∧ number ≤ logical.line + logical.collapsed

/-- The physical lines that a logical line covers. -/
def physical (logical : LogicalLine) (lines : List (List Char)) : List (List Char) :=
  (lines.drop (logical.line.toNat - 1)).take (logical.collapsed + 1)

/-- The numbered pieces of the lines that a logical line covers. -/
def pieces (logical : LogicalLine) (functions lines : List (List Char)) : List NumberedPiece :=
  numberedPieces functions logical.line.toNat (logical.physical lines)

end LogicalLine

/-- Lines are numbered from the first number on. -/
theorem le_line_of_mem_numberLines {first : Int} {codes : List (List Char)} {logical : LogicalLine}
    (member : logical ∈ numberLines first codes) : first ≤ logical.line := by
  induction codes generalizing first with
  | nil => cases member
  | cons code codes ih =>
    rcases List.mem_cons.mp member with rfl | later
    · exact Int.le_refl first
    · have := ih later
      omega

/-- Each line counted is covered by exactly one of the lines that are numbered. -/
theorem exists_covers {first number : Int} {codes : List (List Char)} (reached : first ≤ number)
    (counted : number < first + total (codes.map fun code => deltaSum code + 1)) :
    ∃ logical ∈ numberLines first codes, logical.Covers number ∧
      ∀ other ∈ numberLines first codes, other.Covers number → other = logical := by
  induction codes generalizing first with
  | nil =>
    rw [List.map_nil, total_nil] at counted
    omega
  | cons code codes ih =>
    rw [List.map_cons, total_cons] at counted
    -- The lines that come later start behind all lines that the first one covers.
    by_cases here : number ≤ first + deltaSum code
    · refine ⟨⟨first, code, deltaSum code⟩, List.mem_cons_self, ⟨reached, here⟩, ?_⟩
      intro other member covers
      rcases List.mem_cons.mp member with same | later
      · exact same
      · have := le_line_of_mem_numberLines later
        have := covers.1
        omega
    · obtain ⟨logical, member, covers, only⟩ := @ih (first + 1 + deltaSum code) (by omega) (by omega)
      refine ⟨logical, List.mem_cons_of_mem _ member, covers, ?_⟩
      intro other found also
      rcases List.mem_cons.mp found with rfl | later
      · exact absurd also.2 here
      · exact only other later also

/-- The lines that are kept count all lines, but for those folded in front of them. -/
theorem total_keptLines {codes : List (List Char)} (lacks : ∀ code ∈ codes, LacksLineDeltas code) :
    total ((keptLines codes).map fun code => deltaSum code + 1) + foldedRun codes = codes.length := by
  induction codes with
  | nil => rfl
  | cons code codes ih =>
    obtain ⟨lacksCode, lacksCodes⟩ := List.forall_mem_cons.mp lacks
    have rest := ih lacksCodes
    by_cases folds : breakFolds (code :: codes) = true
    · rw [keptLines, foldedRun, if_pos folds, if_pos folds, List.length_cons]
      omega
    · rw [keptLines, foldedRun, if_neg folds, if_neg folds, List.map_cons, total_cons,
        deltaSum_chainText lacksCode lacksCodes, List.length_cons]
      omega

/-- The logical lines of a joined text count all its lines. -/
theorem total_joinChains {codes endings : List (List Char)} (cut : Cut codes endings)
    (lacks : ∀ code ∈ codes, LacksLineDeltas code) :
    total ((physicalLines (joinChains (joinLines codes endings))).map fun code => deltaSum code + 1) =
      codes.length := by
  obtain ⟨code, others, rfl⟩ := List.exists_cons_of_ne_nil cut.ne_nil
  obtain ⟨lacksCode, lacksOthers⟩ := List.forall_mem_cons.mp lacks
  have rest := total_keptLines lacksOthers
  rw [physicalLines_joinChains cut, List.map_cons, total_cons, deltaSum_chainText lacksCode lacksOthers,
    List.length_cons]
  omega

/-! ## Prepared documents -/

namespace LogicalLine

/-- A logical line keeps the calls of the lines that it covers: its text is put together from their pieces, the
calls stand in it in their order, and their numbers never go down. -/
structure KeepsCalls (logical : LogicalLine) (functions lines : List (List Char)) : Prop where
  /-- The text is put together from the pieces, each call under the number of its line. -/
  assembled : Assembled (logical.pieces functions lines) logical.code
  /-- The tagged calls stand in the text one behind the other. -/
  inOrder : InOrder ((logical.pieces functions lines).filterMap NumberedPiece.call?) logical.code
  /-- Their numbers never go down. -/
  sorted : ((logical.pieces functions lines).map (·.1)).Pairwise (· ≤ ·)

/-- The pieces of a line are among those of the logical line that covers it. -/
theorem mem_pieces {logical : LogicalLine} {functions lines : List (List Char)} {start place : Nat}
    {line : List Char} (starts : logical.line = start + 1) (covers : logical.Covers (place + 1))
    (found : lines[place]? = some line) {piece : Piece (List Char)} (inside : piece ∈ linePieces functions line) :
    (place + 1, piece) ∈ logical.pieces functions lines := by
  obtain ⟨low, high⟩ := covers
  have first : logical.line.toNat = start + 1 := by omega
  refine mem_numberedPieces.mpr ⟨place - start, line, ?_, by omega, inside⟩
  have there : start + (place - start) = place := by omega
  rw [physical, first, Nat.add_sub_cancel, List.getElem?_take_of_lt (by omega), List.getElem?_drop, there, found]

end LogicalLine

section Prepared

variable {functions : List (List Char)} (identifiers : ∀ function ∈ functions, isIdentifier function = true)
  {prepared : List Char} (lacks : LacksLineDeltas prepared)

include lacks in
theorem lacksLineDeltas_physicalLines : ∀ line ∈ physicalLines prepared, LacksLineDeltas line :=
  fun _ member => lacks.of_infix (infix_of_mem_physicalLines member)

include identifiers lacks in
/-- A logical line starts on a physical line and holds it with the lines folded into it. -/
theorem exists_start {logical : LogicalLine}
    (member : logical ∈ planLines (joinChains (tagCalls functions prepared)) 1) :
    ∃ start line, (physicalLines prepared)[start]? = some line ∧
      let later := tagLinesFrom functions (start + 1 + 1) ((physicalLines prepared).drop (start + 1))
      logical = ⟨start + 1, chainText (tagLine functions (start + 1) line) later, foldedRun later⟩ := by
  have cut := cut_tagLinesFrom identifiers (cut_splitLines prepared) 1
  have lacksTagged := lacksLineDeltas_tagLinesFrom identifiers (lacksLineDeltas_physicalLines lacks) 1
  rw [tagCalls, planLines_joinChains cut lacksTagged] at member
  obtain ⟨start, isStart, rfl⟩ := List.mem_map.mp member
  have inside : start < (physicalLines prepared).length := by
    simpa [logicalStarts, physicalLines] using (List.mem_filter.mp isStart).1
  refine ⟨start, (physicalLines prepared)[start], List.getElem?_eq_getElem inside, ?_⟩
  have first : (tagLinesFrom functions 1 (physicalLines prepared)).getD start [] =
      tagLine functions (1 + start) (physicalLines prepared)[start] := by
    rw [List.getD_eq_getElem?_getD, getElem?_tagLinesFrom, List.getElem?_eq_getElem inside]
    rfl
  have others := drop_tagLinesFrom functions 1 (start + 1) (physicalLines prepared)
  have run := length_takeWhile_breakFolded (tagLinesFrom functions 1 (physicalLines prepared)) (start + 1)
  have lines : (splitLines prepared).1 = physicalLines prepared := rfl
  dsimp only
  rw [lines, foldedAfter, run, first, others, Nat.add_comm 1, Nat.add_comm 1, Int.add_comm 1]

include identifiers lacks in
/-- Each logical line keeps the calls of the lines that it covers. -/
theorem keepsCalls {logical : LogicalLine}
    (member : logical ∈ planLines (joinChains (tagCalls functions prepared)) 1) :
    logical.KeepsCalls functions (physicalLines prepared) := by
  obtain ⟨start, line, found, rfl⟩ := exists_start identifiers lacks member
  -- The pieces of the logical line are those of the line it starts on and of the lines folded into it.
  have pieces (code : List Char) (collapsed : Nat) :
      LogicalLine.pieces ⟨start + 1, code, collapsed⟩ functions (physicalLines prepared) =
        numberedPieces functions (start + 1)
          (line :: ((physicalLines prepared).drop (start + 1)).take collapsed) := by
    obtain ⟨inside, rfl⟩ := List.getElem?_eq_some_iff.mp found
    change numberedPieces functions (start + 1) (((physicalLines prepared).drop start).take (collapsed + 1)) = _
    rw [List.drop_eq_getElem_cons inside, List.take_succ_cons]
  have assembled : Assembled _ _ :=
    @assembled_chainText functions line ((physicalLines prepared).drop (start + 1)) (start + 1)
  rw [← pieces] at assembled
  exact ⟨assembled, assembled.inOrder, pairwise_numberedPieces _ _ _⟩

include identifiers lacks in
/-- Each physical line is covered by exactly one logical line, which has all its pieces. -/
theorem exists_covering {place : Nat} {line : List Char} (found : (physicalLines prepared)[place]? = some line) :
    ∃ logical ∈ planLines (joinChains (tagCalls functions prepared)) 1,
      (∀ other ∈ planLines (joinChains (tagCalls functions prepared)) 1,
        other.Covers (place + 1) ↔ other = logical) ∧
      ∀ piece ∈ linePieces functions line,
        (place + 1, piece) ∈ logical.pieces functions (physicalLines prepared) := by
  have cut := cut_tagLinesFrom identifiers (cut_splitLines prepared) 1
  have lacksTagged := lacksLineDeltas_tagLinesFrom identifiers (lacksLineDeltas_physicalLines lacks) 1
  have count := total_joinChains cut lacksTagged
  rw [length_tagLinesFrom] at count
  obtain ⟨inside, -⟩ := List.getElem?_eq_some_iff.mp found
  have counted : ((place : Int) + 1) < 1 + total
      ((physicalLines (joinChains (tagCalls functions prepared))).map fun code => deltaSum code + 1) := by
    rw [tagCalls, count]
    rw [physicalLines] at inside
    omega
  obtain ⟨logical, member, covers, only⟩ := exists_covers (by omega : (1 : Int) ≤ place + 1) counted
  refine ⟨logical, member, fun other listed => ⟨only other listed, ?_⟩, ?_⟩
  · rintro rfl
    exact covers
  · intro piece piece_mem
    obtain ⟨start, _, _, same⟩ := exists_start identifiers lacks member
    exact LogicalLine.mem_pieces (congrArg LogicalLine.line same) covers found piece_mem

end Prepared

/-- **Calls stay with their lines.** In every document without markers behind the first two stages, each physical
line is covered by exactly one logical line, and all its console calls are among the pieces of that line, under
the number of the physical line. The text of each logical line is put together from its pieces, so the tagged
calls stand in it in their order, with numbers that never go down. -/
theorem calls_stay_with_lines {setting : Setting} {source prepared : List Char} {logs : List Log.Record}
    (identifiers : ∀ function ∈ setting.functions, isIdentifier function = true)
    (requires : resolveRequires setting.tree setting.context (importsAsRequires source) = .ok (prepared, logs))
    (lacks : LacksLineDeltas prepared) :
    let lines := physicalLines prepared
    ∃ code records, document setting source = .ok (code, records) ∧
      (∀ (place : Nat) line, lines[place]? = some line → ∃ logical ∈ planLines code 1,
        (∀ other ∈ planLines code 1, other.Covers (place + 1) ↔ other = logical) ∧
        ∀ piece ∈ linePieces setting.functions line,
          (place + 1, piece) ∈ logical.pieces setting.functions lines) ∧
      ∀ logical ∈ planLines code 1, logical.KeepsCalls setting.functions lines := by
  intro lines
  obtain ⟨records, prepares⟩ := document_of_resolved requires
  refine ⟨_, records, prepares, ?_, fun logical => keepsCalls identifiers lacks⟩
  exact fun place line => exists_covering identifiers lacks

/-- A call at the end of a folded line, a line without calls and two calls behind an indent. -/
theorem calls_stay_with_lines_of_chain :
    let setting : Setting := ⟨⟨[], []⟩, ⟨none, none⟩, ["log".toList]⟩
    let source := "console.log(\n  .a)\nf\n\t.b(console.log(1), console.log(2))".toList
    let lines := physicalLines source
    let code := ("global['`console`'].log(1, /*`1`*/.a)\n" ++
      "f /*`1`*/.b(global['`console`'].log(4, 1), global['`console`'].log(4, 2))").toList
    (∃ records, document setting source = .ok (code, records)) ∧
      (∀ (place : Nat) line, lines[place]? = some line → ∃ logical ∈ planLines code 1,
        (∀ other ∈ planLines code 1, other.Covers (place + 1) ↔ other = logical) ∧
        ∀ piece ∈ linePieces setting.functions line,
          (place + 1, piece) ∈ logical.pieces setting.functions lines) ∧
      ∀ logical ∈ planLines code 1, logical.KeepsCalls setting.functions lines := by
  intro setting source lines code
  have lacks : LacksLineDeltas source := by
    intro marker written inside
    exact absurd (inside.mem written.slash_mem) (by decide)
  have requires : resolveRequires setting.tree setting.context (importsAsRequires source) = .ok (source, []) := by
    have imports : importsAsRequires source = source := by decide +kernel
    have noCalls : scan readRequire none source = source.map Piece.char := by decide +kernel
    rw [imports, resolveRequires, noCalls]
    rfl
  obtain ⟨prepared, records, prepares, covering, keeps⟩ :=
    @calls_stay_with_lines setting source source [] (by decide +kernel) requires lacks
  obtain rfl : prepared = code := by
    obtain ⟨others, same⟩ := document_of_resolved requires
    have folded : joinChains (tagCalls setting.functions source) = code := by decide +kernel
    rw [folded, prepares] at same
    exact (Prod.mk.inj (Except.ok.inj same)).1
  exact ⟨⟨records, prepares⟩, covering, keeps⟩

end Marginalia

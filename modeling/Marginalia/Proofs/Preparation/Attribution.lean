import Marginalia.Preparation.Document
import Marginalia.Proofs.Preparation.Tagging

/-! # Attribution of lines
The lines that are fed carry the physical lines on which they start. Which breaks of a text are
taken out is said by its physical lines (`BreakFolded`); the lines after all other breaks are the
logical lines (`logicalStarts`). Preparing a document and counting by its markers finds just these
(`planLines_document`). -/

namespace Marginalia

open Text Preparation Marker

/-! ## Breaks by the place of their line -/

/-- The break before a line is taken out: after nothing but lines of blanks from there on, a line
goes on with a call chain. Lines are counted from zero. -/
def BreakFolded (lines : List (List Char)) (place : Nat) : Prop :=
  ∃ link, place ≤ link ∧
    (∀ blank, place ≤ blank → blank < link → ∃ line, lines[blank]? = some line ∧ line.all isIndent = true) ∧
    ∃ line, lines[link]? = some line ∧ startsWithDot line = true

/-- The break before the first of some lines is taken out if that line goes on with a call chain, or
if it is blank and the break after it is taken out. -/
theorem breakFolded_zero (line : List Char) (lines : List (List Char)) :
    BreakFolded (line :: lines) 0 ↔
      startsWithDot line = true ∨ (line.all isIndent = true ∧ BreakFolded lines 0) := by
  constructor
  · rintro ⟨link, -, blanks, goesOn⟩
    cases link with
    | zero =>
      obtain ⟨first, same, dot⟩ := goesOn
      cases same
      exact .inl dot
    | succ link =>
      obtain ⟨first, same, blank⟩ := blanks 0 (Nat.le_refl 0) (Nat.succ_pos link)
      cases same
      refine .inr ⟨blank, link, Nat.zero_le link, ?_, goesOn⟩
      exact fun place _ before => blanks (place + 1) (Nat.zero_le _) (Nat.succ_lt_succ before)
  · rintro (dot | ⟨blank, link, -, blanks, goesOn⟩)
    · exact ⟨0, Nat.le_refl 0, fun place _ before => absurd before (Nat.not_lt_zero place), line, rfl, dot⟩
    · refine ⟨link + 1, Nat.zero_le _, ?_, goesOn⟩
      intro place _ before
      cases place with
      | zero => exact ⟨line, rfl, blank⟩
      | succ place => exact blanks place (Nat.zero_le place) (Nat.lt_of_succ_lt_succ before)

/-- The first line has no part in the breaks after the next. -/
theorem breakFolded_succ (line : List Char) (lines : List (List Char)) (place : Nat) :
    BreakFolded (line :: lines) (place + 1) ↔ BreakFolded lines place := by
  constructor
  · rintro ⟨link, after, blanks, goesOn⟩
    obtain ⟨link, rfl⟩ := Nat.exists_eq_succ_of_ne_zero (Nat.ne_of_gt (Nat.lt_of_lt_of_le
      (Nat.succ_pos place) after))
    refine ⟨link, Nat.le_of_succ_le_succ after, ?_, goesOn⟩
    exact fun blank start before => blanks (blank + 1) (Nat.succ_le_succ start) (Nat.succ_lt_succ before)
  · rintro ⟨link, after, blanks, goesOn⟩
    refine ⟨link + 1, Nat.succ_le_succ after, ?_, goesOn⟩
    intro blank start before
    cases blank with
    | zero => exact absurd start (Nat.not_succ_le_zero place)
    | succ blank =>
      exact blanks blank (Nat.le_of_succ_le_succ start) (Nat.lt_of_succ_lt_succ before)

/-- Whether a break is taken out shows in the lines from there on. -/
theorem breakFolded_iff (lines : List (List Char)) (place : Nat) :
    BreakFolded lines place ↔ breakFolds (lines.drop place) = true := by
  induction lines generalizing place with
  | nil =>
    rw [List.drop_nil]
    constructor
    · rintro ⟨link, -, -, line, found, -⟩
      cases found
    · intro folds
      cases folds
  | cons line lines ih =>
    cases place with
    | zero =>
      rw [breakFolded_zero, ih, List.drop_zero, List.drop_zero, breakFolds, Bool.or_eq_true,
        Bool.and_eq_true]
    | succ place => rw [breakFolded_succ, ih, List.drop_succ_cons]

instance (lines : List (List Char)) (place : Nat) : Decidable (BreakFolded lines place) :=
  decidable_of_iff _ (breakFolded_iff lines place).symm

/-- The lines that are fed: the first and each after a break that is not taken out. -/
def logicalStarts (lines : List (List Char)) : List Nat :=
  (List.range lines.length).filter fun place => place = 0 ∨ ¬ BreakFolded lines place

/-- How many breaks after a line, one after another, are taken out. -/
def foldedAfter (lines : List (List Char)) (place : Nat) : Nat :=
  ((List.range' (place + 1) (lines.length - (place + 1))).takeWhile
    fun later => BreakFolded lines later).length

/-- The breaks taken out from some line on, counted by its place. -/
theorem length_takeWhile_breakFolded (lines : List (List Char)) (place : Nat) :
    ((List.range' place (lines.length - place)).takeWhile
      fun later => BreakFolded lines later).length = foldedRun (lines.drop place) := by
  induction left : lines.length - place generalizing place with
  | zero =>
    rw [List.drop_eq_nil_of_le (Nat.le_of_sub_eq_zero left)]
    rfl
  | succ more ih =>
    have inside : place < lines.length := by omega
    have next := ih (place + 1) (by omega)
    rw [List.range'_succ, List.drop_eq_getElem_cons inside, foldedRun, ← List.drop_eq_getElem_cons inside]
    by_cases folded : BreakFolded lines place
    · rw [if_pos ((breakFolded_iff lines place).mp folded),
        List.takeWhile_cons_of_pos (by simpa using folded), List.length_cons, next]
    · rw [if_neg (mt (breakFolded_iff lines place).mpr folded),
        List.takeWhile_cons_of_neg (by simpa using folded)]
      rfl

/-- The lines that are kept from some line on, found by their places. -/
theorem attributeLines_drop (codes : List (List Char)) (first : Int) (place : Nat) :
    attributeLines (first + place) (codes.drop place) =
      ((List.range' place (codes.length - place)).filter fun later => ¬ BreakFolded codes later).map
        fun later => ⟨first + later, chainText (codes.getD later []) (codes.drop (later + 1)),
          foldedAfter codes later⟩ := by
  induction left : codes.length - place generalizing place with
  | zero =>
    rw [List.drop_eq_nil_of_le (Nat.le_of_sub_eq_zero left)]
    rfl
  | succ more ih =>
    have inside : place < codes.length := by omega
    have next := ih (place + 1) (by omega)
    have line : first + place + 1 = first + ((place + 1 : Nat) : Int) := by omega
    have code : codes.getD place [] = codes[place] := by simp [inside]
    rw [List.range'_succ, List.drop_eq_getElem_cons inside, attributeLines,
      ← List.drop_eq_getElem_cons inside, line, next]
    by_cases folded : BreakFolded codes place
    · rw [if_pos ((breakFolded_iff codes place).mp folded), List.filter_cons_of_neg (by simpa using folded)]
    · rw [if_neg (mt (breakFolded_iff codes place).mpr folded),
        List.filter_cons_of_pos (by simpa using folded), List.map_cons, foldedAfter,
        length_takeWhile_breakFolded, code]

/-! ## Logical lines by their places -/

/-- The logical lines of a joined text: one for the first line and for each line after a break that
is not taken out, with its own number and the breaks taken out after it. -/
theorem planLines_joinChains {codes endings : List (List Char)} (cut : Cut codes endings)
    (lacks : ∀ code ∈ codes, LacksLineDeltas code) (first : Int) :
    planLines (joinChains (joinLines codes endings)) first =
      (logicalStarts codes).map fun place =>
        ⟨first + place, chainText (codes.getD place []) (codes.drop (place + 1)),
          foldedAfter codes place⟩ := by
  obtain ⟨code, others, rfl⟩ := List.exists_cons_of_ne_nil cut.ne_nil
  obtain ⟨lacksCode, lacksOthers⟩ := List.forall_mem_cons.mp lacks
  -- The first line is fed whatever stands in it; from the second on, only the breaks decide.
  have starts : logicalStarts (code :: others) =
      0 :: (List.range' 1 others.length).filter fun place => ¬ BreakFolded (code :: others) place := by
    rw [logicalStarts, List.length_cons, List.range_eq_range', List.range'_succ,
      List.filter_cons_of_pos (by simp)]
    congr 1
    refine List.filter_congr fun place member => ?_
    have later : place ≠ 0 := by
      have bounds := List.mem_range'_1.mp member
      omega
    simp [later]
  have run : foldedAfter (code :: others) 0 = foldedRun others :=
    length_takeWhile_breakFolded (code :: others) 1
  have rest := attributeLines_drop (code :: others) first 1
  have next : first + 1 + (foldedRun others : Int) = first + ((1 : Nat) : Int) + foldedRun others := rfl
  rw [planLines, physicalLines_joinChains cut, numberLines, deltaSum_chainText lacksCode lacksOthers, next,
    numberLines_keptLines lacksOthers, starts, List.map_cons, run]
  rw [List.drop_succ_cons, List.drop_zero] at rest
  rw [rest]
  simp

/-- Tagging keeps the breaks that are taken out. -/
theorem breakFolded_tagLinesFrom (functions : List (List Char)) (number : Nat) (lines : List (List Char))
    (place : Nat) : BreakFolded (tagLinesFrom functions number lines) place ↔ BreakFolded lines place := by
  rw [breakFolded_iff, breakFolded_iff, drop_tagLinesFrom, breakFolds_tagLinesFrom]

/-- Tagging keeps the lines that are fed. -/
theorem logicalStarts_tagLinesFrom (functions : List (List Char)) (number : Nat)
    (lines : List (List Char)) :
    logicalStarts (tagLinesFrom functions number lines) = logicalStarts lines := by
  simp only [logicalStarts, length_tagLinesFrom, breakFolded_tagLinesFrom]

/-- Tagging keeps the number of breaks that are taken out. -/
theorem foldedAfter_tagLinesFrom (functions : List (List Char)) (number : Nat) (lines : List (List Char))
    (place : Nat) : foldedAfter (tagLinesFrom functions number lines) place = foldedAfter lines place := by
  simp only [foldedAfter, length_tagLinesFrom, breakFolded_tagLinesFrom]

/-! ## Prepared documents -/

/-- A document is prepared by tagging its calls and joining its chains, after the first two stages. -/
theorem document_of_resolved {setting : Setting} {source prepared : List Char} {logs : List Log.Record}
    (requires : resolveRequires setting.tree setting.context (importsAsRequires source) = .ok (prepared, logs)) :
    ∃ records, document setting source =
      .ok (joinChains (tagCalls setting.functions prepared), records) := by
  simp only [document, Stage.order, applyStages, Stage.apply, requires, bind, Except.bind, pure, Except.pure]
  exact ⟨_, rfl⟩

/-- A document that the first two stages leave as it is gets prepared by tagging its calls and
joining its chains. -/
theorem document_of_unchanged {setting : Setting} {source : List Char} {logs : List Log.Record}
    (imports : importsAsRequires source = source)
    (requires : resolveRequires setting.tree setting.context source = .ok (source, logs)) :
    ∃ records, document setting source = .ok (joinChains (tagCalls setting.functions source), records) := by
  have resolved : resolveRequires setting.tree setting.context (importsAsRequires source) = .ok (source, logs) := by
    rwa [imports]
  exact document_of_resolved resolved

/-- **Attribution of lines.** In a document that holds no markers and that the first two stages
leave as it is, one line is fed for the first physical line and for each after a break that is not
taken out, in order. It carries its own physical line and the number of breaks taken out after it,
and it starts with the tagged text of that line, behind which the lines folded into it are put. -/
theorem planLines_document {setting : Setting} {source : List Char} {logs : List Log.Record}
    (identifiers : ∀ function ∈ setting.functions, isIdentifier function = true)
    (lacks : LacksLineDeltas source) (imports : importsAsRequires source = source)
    (requires : resolveRequires setting.tree setting.context source = .ok (source, logs)) (first : Int) :
    let lines := physicalLines source
    let tagged := tagLinesFrom setting.functions 1 lines
    ∃ code records, document setting source = .ok (code, records) ∧
      planLines code first = (logicalStarts lines).map fun place =>
        ⟨first + place, chainText (tagged.getD place []) (tagged.drop (place + 1)),
          foldedAfter lines place⟩ := by
  intro lines tagged
  obtain ⟨records, prepared⟩ := document_of_unchanged imports requires
  refine ⟨_, records, prepared, ?_⟩
  have cut : Cut tagged (splitLines source).2 := cut_tagLinesFrom identifiers (cut_splitLines source) 1
  have lacksLines : ∀ line ∈ lines, LacksLineDeltas line :=
    fun line member => lacks.of_infix (infix_of_mem_physicalLines member)
  have lacksTagged := lacksLineDeltas_tagLinesFrom identifiers lacksLines 1
  have planned := planLines_joinChains cut lacksTagged first
  simp only [tagged, logicalStarts_tagLinesFrom, foldedAfter_tagLinesFrom] at planned
  exact planned

/-- Two folded calls with a blank line between them and a break of either kind. -/
theorem planLines_document_of_chain :
    let setting : Setting := ⟨⟨[], []⟩, ⟨none, none⟩, ["log".toList]⟩
    let source := "let a = 1;\r\n[a] \r\n  .map(f)\n\t\n.sort()\n\nconsole.log(a)\n".toList
    ∃ code records, document setting source = .ok (code, records) ∧
      (planLines code 5).map (fun logical => (logical.line, logical.collapsed)) =
        [(5, 0), (6, 3), (10, 0), (11, 0), (12, 0)] := by
  intro setting source
  have lacks : LacksLineDeltas source := by
    intro marker written inside
    exact absurd (inside.mem written.slash_mem) (by decide)
  have requires : resolveRequires setting.tree setting.context source = .ok (source, []) := by
    have noCalls : scan readRequire none source = source.map Piece.char := by decide +kernel
    rw [resolveRequires, noCalls]
    rfl
  obtain ⟨code, records, prepared, planned⟩ :=
    @planLines_document setting source [] (by decide +kernel) lacks (by decide +kernel) requires 5
  refine ⟨code, records, prepared, ?_⟩
  rw [planned, List.map_map]
  decide +kernel

end Marginalia

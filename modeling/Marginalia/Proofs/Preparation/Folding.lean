import Marginalia.LogicalLine
import Marginalia.Preparation.ChainBreak
import Marginalia.Proofs.Preparation.LineDelta
import Marginalia.Proofs.Text.Lines
import Marginalia.Proofs.Text.Trimming

/-! # Folding call chains
What joining the call chains of a text does to its physical lines. The break before a line is taken
out when, after nothing but lines of indentation, a line comes that goes on with a dot
(`breakFolds`); the line before then goes on with a marker and the chained call (`chainText`). The
lines that are left are the logical lines (`physicalLines_joinChains`), and the markers in each say
how many breaks were taken out of it (`deltaSum_chainText`). -/

namespace Marginalia.Preparation

open Text Marker

/-! ## Reading breaks -/

/-- A character that starts no break is skipped if it is a blank, and otherwise it ends the reading.
-/
theorem readBreaks_cons_of_ne {c : Char} {rest : List Char} (feed : c ≠ '\n')
    (both : c = '\r' → rest.head? ≠ some '\n') :
    readBreaks (c :: rest) = if isIndent c then readBreaks rest else (0, c :: rest) := by
  apply readBreaks.eq_4
  · intro isFeed
    exact feed isFeed
  · rintro after rfl rfl
    exact both rfl rfl

/-- What is read is white space in front of the text after it, and holds as many line feeds as breaks are
counted. -/
theorem readBreaks_written (text : List Char) :
    ∃ gap, text = gap ++ (readBreaks text).2 ∧ lineFeeds gap = (readBreaks text).1 ∧ Blank gap := by
  fun_induction readBreaks text with
  | case1 => exact ⟨[], rfl, rfl, List.forall_mem_nil _⟩
  | case2 rest ih =>
    obtain ⟨gap, parts, count, blank⟩ := ih
    exact ⟨'\n' :: gap, congrArg ('\n' :: ·) parts, by simp [lineFeeds, ← count],
      List.forall_mem_cons.mpr ⟨by decide, blank⟩⟩
  | case3 rest ih =>
    obtain ⟨gap, parts, count, blank⟩ := ih
    exact ⟨'\r' :: '\n' :: gap, congrArg ('\r' :: '\n' :: ·) parts, by simp [lineFeeds, ← count],
      List.forall_mem_cons.mpr ⟨by decide, List.forall_mem_cons.mpr ⟨by decide, blank⟩⟩⟩
  | case4 c rest feed _ indent ih =>
    obtain ⟨gap, parts, count, blank⟩ := ih
    have other : c ≠ '\n' := fun isFeed => feed isFeed
    exact ⟨c :: gap, congrArg (c :: ·) parts, by simp [lineFeeds, other, ← count],
      List.forall_mem_cons.mpr ⟨isBlank_of_isIndent indent, blank⟩⟩
  | case5 => exact ⟨[], rfl, rfl, List.forall_mem_nil _⟩

/-- What is read as a chain break. -/
theorem readChainBreak_eq_some_iff {before : Option Char} {text after : List Char} {breaks : Nat} :
    readChainBreak before text = some (breaks, after) ↔
      readBreaks text = (breaks, after) ∧ 0 < breaks ∧ after.head? = some '.' := by
  rcases reading : readBreaks text with ⟨count, rest⟩
  constructor
  · intro read
    rw [readChainBreak, reading] at read
    split at read
    · next same =>
      cases same
      cases read
      exact ⟨rfl, Nat.succ_pos _, rfl⟩
    · cases read
  · rintro ⟨same, some, dot⟩
    cases same
    obtain ⟨others, rfl⟩ := List.head?_eq_some_iff.mp dot
    obtain ⟨fewer, rfl⟩ := Nat.exists_eq_succ_of_ne_zero (Nat.ne_of_gt some)
    rw [readChainBreak, reading]
    rfl

/-- No chain break is read where no line break is, or where no dot follows. -/
theorem readChainBreak_eq_none {before : Option Char} {text : List Char}
    (other : (readBreaks text).1 = 0 ∨ (readBreaks text).2.head? ≠ some '.') :
    readChainBreak before text = none := by
  cases read : readChainBreak before text with
  | none => rfl
  | some found =>
    obtain ⟨breaks, some, dot⟩ := readChainBreak_eq_some_iff.mp read
    rw [breaks] at other
    rcases other with zero | noDot
    · exact absurd zero (Nat.ne_of_gt some)
    · exact absurd dot noDot

/-- Chain breaks are read from the front of a text. -/
theorem readsFront_readChainBreak : Recogniser.ReadsFront readChainBreak := by
  intro before text breaks after read
  obtain ⟨reading, some, -⟩ := readChainBreak_eq_some_iff.mp read
  obtain ⟨gap, parts, count, -⟩ := readBreaks_written text
  rw [reading] at parts count
  refine ⟨gap, ?_, parts⟩
  rintro rfl
  exact absurd count (Nat.ne_of_lt some)

/-- Chain breaks are read alike after every character. -/
theorem readChainBreak_before (before : Option Char) (text : List Char) :
    readChainBreak before text = readChainBreak none text := rfl

/-- Where no chain break is read, joining keeps one character. -/
theorem joinChains_cons_of_none {c : Char} {rest : List Char}
    (nothing : readChainBreak none (c :: rest) = none) : joinChains (c :: rest) = c :: joinChains rest := by
  rw [joinChains, replace_eq_flatMap, scan_cons_of_none nothing, scan_before readChainBreak_before]
  rfl

/-- Where a chain break is read, joining puts a marker in its place. -/
theorem joinChains_of_some {text after : List Char} {breaks : Nat}
    (read : readChainBreak none text = some (breaks, after)) :
    joinChains text = ' ' :: (lineDelta breaks ++ joinChains after) := by
  obtain ⟨written, something, rfl⟩ := readsFront_readChainBreak none text breaks after read
  rw [joinChains, replace_eq_flatMap, scan_append_of_some something read, scan_before readChainBreak_before]
  rfl

/-! ## Breaks between lines -/

/-- The text of a first line is in front of the text of the others. -/
theorem joinLines_cons (c : Char) (line : List Char) (lines endings : List (List Char)) :
    joinLines ((c :: line) :: lines) endings = c :: joinLines (line :: lines) endings :=
  joinLines_consHead c (List.cons_ne_nil line lines) endings

/-- A first line that holds more than blanks is read up to its first other character. -/
theorem readBreaks_joinLines_of_other {line : List Char} {lines endings : List (List Char)}
    (cut : Cut (line :: lines) endings) (other : line.all isIndent = false) :
    readBreaks (joinLines (line :: lines) endings) =
      (0, joinLines (line.dropWhile isIndent :: lines) endings) := by
  induction line with
  | nil => simp at other
  | cons c line ih =>
    rw [joinLines_cons, readBreaks_cons_of_ne cut.head.1 cut.head.2]
    cases blank : isIndent c with
    | true =>
      have others : line.all isIndent = false := by simpa [blank] using other
      rw [if_pos rfl, ih cut.tail others, List.dropWhile_cons_of_pos blank]
    | false =>
      have kept : ¬ isIndent c = true := by simp [blank]
      rw [if_neg Bool.false_ne_true, List.dropWhile_cons_of_neg kept, joinLines_cons]

/-- A first line of blanks is read with the break after it. -/
theorem readBreaks_joinLines_of_all {line : List Char} {lines endings : List (List Char)}
    (cut : Cut (line :: lines) endings) (all : line.all isIndent = true) :
    readBreaks (joinLines (line :: lines) endings) = readBreaks (joinLines ([] :: lines) endings) := by
  induction line with
  | nil => rfl
  | cons c line ih =>
    have blank : isIndent c = true ∧ line.all isIndent = true := by simpa using all
    rw [joinLines_cons, readBreaks_cons_of_ne cut.head.1 cut.head.2, if_pos blank.1, ih cut.tail blank.2]

/-- The break in front of a line is counted. -/
theorem readBreaks_joinLines_nil {lines endings : List (List Char)} (cut : Cut ([] :: lines) endings)
    (something : lines ≠ []) : ∃ others, Cut lines others ∧
      readBreaks (joinLines ([] :: lines) endings) =
        ((readBreaks (joinLines lines others)).1 + 1, (readBreaks (joinLines lines others)).2) := by
  cases cut with
  | last => exact absurd rfl something
  | feed _ _ rest | both _ rest => exact ⟨_, rest, rfl⟩

/-! ## Joining the chains of lines -/

/-- Joining keeps a line whose break is kept, with all its blanks. -/
theorem joinChains_joinLines_of_kept {line : List Char} {lines endings : List (List Char)}
    (cut : Cut (line :: lines) endings)
    (kept : (readBreaks (joinLines ([] :: lines) endings)).2.head? ≠ some '.') :
    joinChains (joinLines (line :: lines) endings) =
      line ++ joinChains (joinLines ([] :: lines) endings) := by
  induction line with
  | nil => rfl
  | cons c line ih =>
    have nothing : readChainBreak none (joinLines ((c :: line) :: lines) endings) = none := by
      apply readChainBreak_eq_none
      cases all : (c :: line).all isIndent with
      | true => exact .inr (readBreaks_joinLines_of_all cut all ▸ kept)
      | false => exact .inl (by rw [readBreaks_joinLines_of_other cut all])
    rw [joinLines_cons] at nothing ⊢
    rw [joinChains_cons_of_none nothing, ih cut.tail, List.cons_append]

/-- Joining puts a marker in place of the blanks and breaks between a line and the chained call that
is folded into it. -/
theorem joinChains_joinLines_of_folded {line : List Char} {lines endings : List (List Char)}
    (cut : Cut (line :: lines) endings) {breaks : Nat} {after : List Char}
    (read : readChainBreak none (joinLines ([] :: lines) endings) = some (breaks, after)) :
    joinChains (joinLines (line :: lines) endings) =
      trimEndBy isIndent line ++ ' ' :: (lineDelta breaks ++ joinChains after) := by
  induction line with
  | nil => exact joinChains_of_some read
  | cons c line ih =>
    cases all : (c :: line).all isIndent with
    | true =>
      -- The break is read from the first of these blanks on, so none of them is left.
      rw [readChainBreak_eq_some_iff, ← readBreaks_joinLines_of_all cut all,
        ← readChainBreak_eq_some_iff] at read
      rw [trimEndBy_of_all all, joinChains_of_some read, List.nil_append]
    | false =>
      have nothing : readChainBreak none (joinLines ((c :: line) :: lines) endings) = none := by
        apply readChainBreak_eq_none
        exact .inl (by rw [readBreaks_joinLines_of_other cut all])
      rw [joinLines_cons] at nothing ⊢
      rw [joinChains_cons_of_none nothing, ih cut.tail, trimEndBy_cons all, List.cons_append]

/-- Joining keeps a break that is kept, and the lines after it are joined on their own. -/
theorem joinChains_joinLines_nil_of_kept {lines endings : List (List Char)} (cut : Cut ([] :: lines) endings)
    (others : lines ≠ []) (kept : (readBreaks (joinLines ([] :: lines) endings)).2.head? ≠ some '.') :
    ∃ ending later, endings = ending :: later ∧ Cut lines later ∧
      joinChains (joinLines ([] :: lines) endings) = ending ++ joinChains (joinLines lines later) := by
  cases cut with
  | last => exact absurd rfl others
  | @feed _ _ later _ _ rest =>
    have feed : readChainBreak none ('\n' :: joinLines lines later) = none :=
      readChainBreak_eq_none (.inr kept)
    exact ⟨_, later, rfl, rest, joinChains_cons_of_none feed⟩
  | @both _ _ later _ rest =>
    have feed : readChainBreak none ('\n' :: joinLines lines later) = none :=
      readChainBreak_eq_none (.inr kept)
    -- The line feed is met on its own once the carriage return is passed.
    have both : readChainBreak none ('\r' :: '\n' :: joinLines lines later) = none :=
      readChainBreak_eq_none (.inr kept)
    refine ⟨_, later, rfl, rest, ?_⟩
    show joinChains ('\r' :: '\n' :: joinLines lines later) = _
    rw [joinChains_cons_of_none both, joinChains_cons_of_none feed]
    rfl

/-- Where the break after a line is kept, that line stays as it is, and the others are joined on
their own. -/
theorem physicalLines_joinChains_of_kept {line : List Char} {lines endings : List (List Char)}
    (cut : Cut (line :: lines) endings) (others : lines ≠ [])
    (kept : (readBreaks (joinLines ([] :: lines) endings)).2.head? ≠ some '.') :
    ∃ later, Cut lines later ∧ physicalLines (joinChains (joinLines (line :: lines) endings)) =
      line :: physicalLines (joinChains (joinLines lines later)) := by
  obtain ⟨ending, later, same, -, after⟩ :=
    joinChains_joinLines_nil_of_kept (cut.suffix List.nil_suffix) others kept
  rw [joinChains_joinLines_of_kept cut kept, after]
  cases cut with
  | last => exact absurd rfl others
  | feed whole plain rest =>
    obtain ⟨rfl, rfl⟩ := List.cons.inj same
    refine ⟨_, rest, ?_⟩
    rw [physicalLines, List.singleton_append, splitLines_append_feed whole plain]
    rfl
  | both whole rest =>
    obtain ⟨rfl, rfl⟩ := List.cons.inj same
    refine ⟨_, rest, ?_⟩
    rw [physicalLines, List.cons_append, List.singleton_append, splitLines_append_both whole]
    rfl

/-! ## Folded lines -/

/-- Whether a line goes on with a call chain: it starts with a dot, but for blanks. -/
def startsWithDot (line : List Char) : Bool := (line.dropWhile isIndent).head? == some '.'

/-- A blank in front of a line does not change whether it goes on with a call chain. -/
theorem startsWithDot_cons (c : Char) (line : List Char) :
    startsWithDot (c :: line) = if isIndent c then startsWithDot line else c == '.' := by
  cases blank : isIndent c with
  | true => rw [startsWithDot, List.dropWhile_cons_of_pos blank, if_pos rfl, startsWithDot]
  | false =>
    have other : ¬ isIndent c = true := by simp [blank]
    rw [startsWithDot, List.dropWhile_cons_of_neg other, if_neg Bool.false_ne_true]
    rfl

/-- Whether the break before the first of some lines is taken out: after nothing but lines of
blanks, a line goes on with a call chain. -/
def breakFolds : List (List Char) → Bool
  | [] => false
  | line :: lines => startsWithDot line || (line.all isIndent && breakFolds lines)

/-- How many breaks before the lines, one after another, are taken out. -/
def foldedRun : List (List Char) → Nat
  | [] => 0
  | line :: lines => if breakFolds (line :: lines) then foldedRun lines + 1 else 0

/-- A line with the text put behind it, if there is one, in place of its trailing blanks. -/
def attach (line : List Char) : Option (List Char) → List Char
  | none => line
  | some tail => trimEndBy isIndent line ++ tail

/-- The text put behind a line in place of the lines after it that are folded into it, if any are: a
marker for the breaks, some of which are counted already, and the chained call with all that is
folded into it. -/
def foldedTail : Nat → List (List Char) → Option (List Char)
  | _, [] => none
  | breaks, line :: lines =>
    if startsWithDot line then
      some (' ' :: (lineDelta breaks ++ attach (line.dropWhile isIndent) (foldedTail 1 lines)))
    else if line.all isIndent then foldedTail (breaks + 1) lines
    else none

/-- A line with the lines after it that are folded into it. -/
def chainText (line : List Char) (lines : List (List Char)) : List Char := attach line (foldedTail 1 lines)

/-- The lines that are left when each that is folded is put behind the line before. -/
def keptLines : List (List Char) → List (List Char)
  | [] => []
  | line :: lines =>
    if breakFolds (line :: lines) then keptLines lines else chainText line lines :: keptLines lines

/-- Something is put behind a line exactly when the break after it is taken out. -/
theorem isSome_foldedTail (breaks : Nat) (lines : List (List Char)) :
    (foldedTail breaks lines).isSome = breakFolds lines := by
  fun_induction foldedTail breaks lines with
  | case1 => rfl
  | case2 breaks line lines dot => simp [breakFolds, dot]
  | case3 breaks line lines noDot blank ih => simp [breakFolds, noDot, blank, ih]
  | case4 breaks line lines noDot other => simp [breakFolds, noDot, other]

/-- A line that starts with a dot holds more than blanks. -/
theorem all_isIndent_of_startsWithDot {line : List Char} (dot : startsWithDot line = true) :
    line.all isIndent = false := by
  cases all : line.all isIndent with
  | false => rfl
  | true =>
    rw [startsWithDot, dropWhile_of_all all] at dot
    cases dot

/-- What stands behind a break that is taken out is the line that goes on with the chain, and what
is put in its place is a marker and that line. -/
theorem exists_link {lines endings : List (List Char)} (cut : Cut lines endings) {breaks : Nat}
    {tail : List Char} (folded : foldedTail breaks lines = some tail) :
    ∃ link more moreEndings, Cut (link :: more) moreEndings ∧ more.length < lines.length ∧
      (readBreaks (joinLines lines endings)).2 = joinLines (link :: more) moreEndings ∧
      link.head? = some '.' ∧ keptLines lines = keptLines more ∧
      tail = ' ' ::
        (lineDelta (breaks + (readBreaks (joinLines lines endings)).1) ++ chainText link more) := by
  induction lines generalizing breaks endings with
  | nil => cases folded
  | cons line lines ih =>
    have folds : breakFolds (line :: lines) = true := by
      rw [← isSome_foldedTail breaks, folded, Option.isSome_some]
    by_cases dot : startsWithDot line = true
    · rw [foldedTail, if_pos dot] at folded
      have reading := readBreaks_joinLines_of_other cut (all_isIndent_of_startsWithDot dot)
      refine ⟨line.dropWhile isIndent, lines, endings, cut.suffix (List.dropWhile_suffix _),
        Nat.lt_succ_self _, ?_, ?_, ?_, ?_⟩
      · rw [reading]
      · exact beq_iff_eq.mp dot
      · rw [keptLines, if_pos folds]
      · rw [reading, Nat.add_zero]
        exact (Option.some.inj folded).symm
    · rw [foldedTail, if_neg dot] at folded
      by_cases blank : line.all isIndent = true
      · -- One more break is counted, and the link is the same.
        rw [if_pos blank] at folded
        have something : lines ≠ [] := by
          rintro rfl
          cases folded
        obtain ⟨others, rest, reading⟩ :=
          readBreaks_joinLines_nil (cut.suffix List.nil_suffix) something
        obtain ⟨link, more, moreEndings, cutMore, shorter, after, first, kept, text⟩ := ih rest folded
        rw [readBreaks_joinLines_of_all cut blank, reading]
        refine ⟨link, more, moreEndings, cutMore, Nat.lt_succ_of_lt shorter, after, first, ?_, ?_⟩
        · rw [keptLines, if_pos folds, kept]
        · rw [text, Nat.add_assoc, Nat.add_comm 1]
      · rw [if_neg blank] at folded
        cases folded

/-- No dot stands behind a break that is kept. -/
theorem head?_readBreaks_of_kept {lines endings : List (List Char)} (cut : Cut lines endings)
    (kept : breakFolds lines = false) :
    (readBreaks (joinLines lines endings)).2.head? ≠ some '.' := by
  induction lines generalizing endings with
  | nil => simp
  | cons line lines ih =>
    obtain ⟨noDot, others⟩ := Bool.or_eq_false_iff.mp kept
    cases blank : line.all isIndent with
    | true =>
      rw [blank, Bool.true_and] at others
      rw [readBreaks_joinLines_of_all cut blank]
      cases lines with
      | nil =>
        cases cut with
        | last => simp [joinLines]
        | feed _ _ rest | both _ rest => exact absurd rfl rest.ne_nil
      | cons next more =>
        obtain ⟨later, rest, reading⟩ :=
          readBreaks_joinLines_nil (cut.suffix List.nil_suffix) (List.cons_ne_nil next more)
        rw [reading]
        exact ih rest others
    | false =>
      obtain ⟨c, rest, dropped, -⟩ := exists_dropWhile_eq_cons blank
      rw [startsWithDot, dropped] at noDot
      rw [readBreaks_joinLines_of_other cut blank, dropped, joinLines_cons]
      intro dot
      rw [List.head?_cons] at dot noDot
      rw [dot] at noDot
      cases noDot

/-- A line into which others are folded ends in a marker where the next line that goes on with the
chain is put behind it. -/
theorem exists_front {line : List Char} {lines endings : List (List Char)}
    (cut : Cut (line :: lines) endings) {tail : List Char} (folded : foldedTail 1 lines = some tail) :
    ∃ front link more moreEndings, Cut (link :: more) moreEndings ∧ more.length < lines.length ∧
      keptLines lines = keptLines more ∧ '\n' ∉ front ∧ front.getLast? ≠ some '\r' ∧
      chainText line lines = front ++ chainText link more ∧
      joinChains (joinLines (line :: lines) endings) =
        front ++ joinChains (joinLines (link :: more) moreEndings) := by
  have something : lines ≠ [] := by
    rintro rfl
    cases folded
  obtain ⟨later, rest, reading⟩ := readBreaks_joinLines_nil (cut.suffix List.nil_suffix) something
  obtain ⟨link, more, moreEndings, cutMore, shorter, after, first, kept, text⟩ := exists_link rest folded
  have dot : (joinLines (link :: more) moreEndings).head? = some '.' := by
    obtain ⟨others, rfl⟩ := List.head?_eq_some_iff.mp first
    rw [joinLines_cons, List.head?_cons]
  rw [after, Nat.add_comm] at reading
  have read : readChainBreak none (joinLines ([] :: lines) endings) =
      some (1 + (readBreaks (joinLines lines later)).1, joinLines (link :: more) moreEndings) :=
    readChainBreak_eq_some_iff.mpr ⟨reading, by omega, dot⟩
  -- The marker ends in a slash, so no break can start in front of the link.
  let marker := lineDelta (1 + (readBreaks (joinLines lines later)).1)
  refine ⟨trimEndBy isIndent line ++ ' ' :: marker, link, more, moreEndings, cutMore, shorter, kept,
    ?_, ?_, ?_, ?_⟩
  · have lineWhole : '\n' ∉ trimEndBy isIndent line :=
      fun member => cut.whole line List.mem_cons_self ((trimEndBy_isPrefix _ _).mem member)
    have markerWhole : '\n' ∉ marker := by
      intro member
      have held := (isLineDelta_lineDelta _).isDeltaChar_of_mem member
      exact absurd held (by decide)
    simp [lineWhole, markerWhole]
  · have last : marker.getLast? = some '/' := getLast?_lineDelta _
    simp [List.getLast?_append, List.getLast?_cons, last]
  · rw [chainText, folded, attach, text, List.append_assoc, List.cons_append]
  · rw [joinChains_joinLines_of_folded cut read, List.append_assoc, List.cons_append]

/-- **The lines of a joined text.** The first line with what is folded into it, and then every line
that is kept, with what is folded into it. -/
theorem physicalLines_joinChains {line : List Char} {lines endings : List (List Char)}
    (cut : Cut (line :: lines) endings) :
    physicalLines (joinChains (joinLines (line :: lines) endings)) =
      chainText line lines :: keptLines lines := by
  -- A step passes over all the lines folded into the first one up to the next link of its chain, so the
  -- induction is on the number of the lines after it.
  induction size : lines.length using Nat.strongRecOn generalizing line lines endings with
  | _ _ ih =>
    subst size
    cases folded : foldedTail 1 lines with
    | none =>
      have keeps : breakFolds lines = false := by rw [← isSome_foldedTail 1, folded, Option.isSome_none]
      have kept : (readBreaks (joinLines ([] :: lines) endings)).2.head? ≠ some '.' :=
        head?_readBreaks_of_kept (cut.suffix List.nil_suffix) keeps
      have text : chainText line lines = line := by rw [chainText, folded, attach]
      cases lines with
      | nil =>
        cases cut with
        | last whole =>
          rw [joinChains_joinLines_of_kept (.last whole) kept, text]
          show physicalLines (line ++ joinChains []) = [line]
          rw [joinChains_nil, List.append_nil, physicalLines, splitLines_of_not_mem whole]
        | feed _ _ rest | both _ rest => exact absurd rfl rest.ne_nil
      | cons next more =>
        obtain ⟨later, rest, lines⟩ :=
          physicalLines_joinChains_of_kept cut (List.cons_ne_nil next more) kept
        rw [lines, ih more.length (Nat.lt_succ_self _) rest rfl, text, keptLines, keeps]
        rfl
    | some tail =>
      obtain ⟨front, link, more, moreEndings, rest, shorter, kept, whole, plain, text, joined⟩ :=
        exists_front cut folded
      have lines := ih more.length shorter rest rfl
      rw [joined, physicalLines,
        splitLines_append whole (fun isReturn => absurd isReturn plain) lines, text, kept]

/-! ## The markers of folded lines -/

/-- No breaks are taken out in front of lines that stay. -/
theorem foldedRun_of_kept {lines : List (List Char)} (kept : breakFolds lines = false) :
    foldedRun lines = 0 := by
  cases lines with
  | nil => rfl
  | cons line lines => rw [foldedRun, kept, if_neg Bool.false_ne_true]

/-- The markers of a line with what is put behind it, where none was found before: they count the
breaks taken out behind it. -/
theorem deltaSum_attach {line : List Char} {lines : List (List Char)} (lacks : LacksLineDeltas line)
    (behind : ∀ tail, foldedTail 1 lines = some tail →
      ∃ rest, tail = ' ' :: rest ∧ deltaSum rest = foldedRun lines) :
    deltaSum (attach line (foldedTail 1 lines)) = foldedRun lines := by
  cases folded : foldedTail 1 lines with
  | none =>
    have kept : breakFolds lines = false := by rw [← isSome_foldedTail 1, folded, Option.isSome_none]
    rw [attach, lacks.deltaSum_eq_zero, foldedRun_of_kept kept]
  | some tail =>
    obtain ⟨rest, rfl, sum⟩ := behind tail folded
    have apart : isDeltaChar ' ' = false := by decide
    have front : LacksLineDeltas (trimEndBy isIndent line) :=
      lacks.of_infix (trimEndBy_isPrefix _ _).isInfix
    rw [attach, deltaSum_append_cons apart, front.deltaSum_eq_zero, Nat.zero_add, sum]

/-- The markers in what is put behind a line count the breaks that are taken out, with those counted
already. -/
theorem deltaSum_foldedTail {lines : List (List Char)} (lacks : ∀ line ∈ lines, LacksLineDeltas line)
    {breaks : Nat} {tail : List Char} (folded : foldedTail (breaks + 1) lines = some tail) :
    ∃ rest, tail = ' ' :: rest ∧ deltaSum rest = breaks + foldedRun lines := by
  induction lines generalizing breaks tail with
  | nil => cases folded
  | cons line lines ih =>
    obtain ⟨lacksLine, lacksLines⟩ := List.forall_mem_cons.mp lacks
    have folds : breakFolds (line :: lines) = true := by
      rw [← isSome_foldedTail (breaks + 1), folded, Option.isSome_some]
    have run : foldedRun (line :: lines) = foldedRun lines + 1 := by rw [foldedRun, if_pos folds]
    rw [run]
    by_cases dot : startsWithDot line = true
    · rw [foldedTail, if_pos dot] at folded
      refine ⟨_, (Option.some.inj folded).symm, ?_⟩
      -- What is folded into the link counts from nothing again.
      have link : LacksLineDeltas (line.dropWhile isIndent) :=
        lacksLine.of_infix (List.dropWhile_suffix _).isInfix
      have behind := deltaSum_attach link fun tail folded => by
        obtain ⟨rest, parts, sum⟩ := ih lacksLines folded
        exact ⟨rest, parts, by rw [sum, Nat.zero_add]⟩
      rw [deltaSum_lineDelta_append, behind]
      omega
    · rw [foldedTail, if_neg dot] at folded
      by_cases blank : line.all isIndent = true
      · rw [if_pos blank] at folded
        obtain ⟨rest, parts, sum⟩ := ih lacksLines folded
        exact ⟨rest, parts, by omega⟩
      · rw [if_neg blank] at folded
        cases folded

/-- **The markers of a logical line.** Where no marker was found before, they count the breaks taken
out behind its first line. -/
theorem deltaSum_chainText {line : List Char} {lines : List (List Char)} (lacks : LacksLineDeltas line)
    (lacksLines : ∀ line ∈ lines, LacksLineDeltas line) :
    deltaSum (chainText line lines) = foldedRun lines := by
  refine deltaSum_attach lacks fun tail folded => ?_
  obtain ⟨rest, parts, sum⟩ := deltaSum_foldedTail lacksLines folded
  exact ⟨rest, parts, by rw [sum, Nat.zero_add]⟩

/-! ## Numbering folded lines -/

/-- The lines that are kept, each with its own physical line and the number of breaks taken out of
it. -/
def attributeLines : Int → List (List Char) → List LogicalLine
  | _, [] => []
  | line, code :: codes =>
    if breakFolds (code :: codes) then attributeLines (line + 1) codes
    else ⟨line, chainText code codes, foldedRun codes⟩ :: attributeLines (line + 1) codes

/-- Counting by the markers gives each kept line its own physical line. -/
theorem numberLines_keptLines {codes : List (List Char)} (lacks : ∀ code ∈ codes, LacksLineDeltas code)
    (line : Int) : numberLines (line + foldedRun codes) (keptLines codes) = attributeLines line codes := by
  induction codes generalizing line with
  | nil => rfl
  | cons code codes ih =>
    obtain ⟨lacksCode, lacksCodes⟩ := List.forall_mem_cons.mp lacks
    by_cases folds : breakFolds (code :: codes) = true
    · rw [foldedRun, keptLines, attributeLines, if_pos folds, if_pos folds, if_pos folds,
        ← ih lacksCodes (line + 1)]
      congr 1
      omega
    · rw [foldedRun, keptLines, attributeLines, if_neg folds, if_neg folds, if_neg folds, numberLines,
        deltaSum_chainText lacksCode lacksCodes, ← ih lacksCodes (line + 1)]
      have start : line + ((0 : Nat) : Int) = line := Int.add_zero line
      rw [start]

end Marginalia.Preparation

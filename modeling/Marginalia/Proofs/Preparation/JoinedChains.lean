import Marginalia.Proofs.Preparation.Stability
import Mathlib.Algebra.Order.Ring.Nat

/-! # Joined chains
What joining does to a text is said without the reader of breaks: at each place blanks and line breaks in
front of a dot either stand, and a marker for the breaks takes their place, or the character there is kept
(`ChainsJoined`). This leaves exactly one joined text. Its markers are those of the text before and those that
stand for the breaks that were taken out (`widened_joinChains`), whatever markers or parts of markers the text
holds, because both the blank that opens what is put in place and the dot behind it keep the text before and
after apart. So the markers and the line breaks together stay as many as they were, and a marker that is too
long to be read is there before and after.
No line goes on with a chain afterwards, so joining again changes nothing (`chains_joined_in_place`). -/

namespace Marginalia.Preparation

open Text Marker

/-! ## Chain breaks -/

/-- Blanks and line breaks alone. -/
inductive BlankLines : List Char → Prop where
  /-- No text. -/
  | nil : BlankLines []
  /-- A line feed in front. -/
  | feed {rest : List Char} (others : BlankLines rest) : BlankLines ('\n' :: rest)
  /-- A carriage return and a line feed in front. -/
  | both {rest : List Char} (others : BlankLines rest) : BlankLines ('\r' :: '\n' :: rest)
  /-- A blank in front. -/
  | indent {c : Char} {rest : List Char} (blank : isIndent c = true) (others : BlankLines rest) :
      BlankLines (c :: rest)

/-- The texts that are taken out in front of a dot: blanks and line breaks, with at least one break. -/
def IsChainBreak (gap : List Char) : Prop := BlankLines gap ∧ '\n' ∈ gap

/-- What is read in front of a text is blanks and line breaks, as many as are counted. -/
theorem exists_blankLines (text : List Char) :
    ∃ gap, text = gap ++ (readBreaks text).2 ∧ lineFeeds gap = (readBreaks text).1 ∧ BlankLines gap := by
  fun_induction readBreaks text with
  | case1 => exact ⟨[], rfl, rfl, .nil⟩
  | case2 rest ih =>
    obtain ⟨gap, parts, count, blank⟩ := ih
    exact ⟨'\n' :: gap, congrArg ('\n' :: ·) parts, by simp [lineFeeds, ← count], .feed blank⟩
  | case3 rest ih =>
    obtain ⟨gap, parts, count, blank⟩ := ih
    exact ⟨'\r' :: '\n' :: gap, congrArg ('\r' :: '\n' :: ·) parts, by simp [lineFeeds, ← count], .both blank⟩
  | case4 c rest feed _ indent ih =>
    obtain ⟨gap, parts, count, blank⟩ := ih
    have other : c ≠ '\n' := fun isFeed => feed isFeed
    exact ⟨c :: gap, congrArg (c :: ·) parts, by simp [lineFeeds, other, ← count], .indent indent blank⟩
  | case5 => exact ⟨[], rfl, rfl, .nil⟩

/-- Blanks and line breaks in front of a dot are read up to it. -/
theorem BlankLines.readBreaks_append {gap : List Char} (blank : BlankLines gap) {after : List Char}
    (dot : after.head? = some '.') : readBreaks (gap ++ after) = (lineFeeds gap, after) := by
  induction blank with
  | nil =>
    obtain ⟨others, rfl⟩ := List.head?_eq_some_iff.mp dot
    rfl
  | feed _ ih | both _ ih => simp [readBreaks, ih, lineFeeds]
  | @indent c rest blank _ ih =>
    have feed : c ≠ '\n' := by
      rintro rfl
      cases blank
    have carriage : c = '\r' → (rest ++ after).head? ≠ some '\n' := by
      rintro rfl
      cases blank
    rw [List.cons_append, readBreaks_cons_of_ne feed carriage, if_pos blank, ih]
    simp [lineFeeds, feed]

/-- Blanks and line breaks hold no character of a marker. -/
theorem BlankLines.isDeltaChar_of_mem {gap : List Char} (blank : BlankLines gap) :
    ∀ c ∈ gap, isDeltaChar c = false := by
  induction blank with
  | nil => exact List.forall_mem_nil _
  | feed _ ih => exact List.forall_mem_cons.mpr ⟨by decide, ih⟩
  | both _ ih => exact List.forall_mem_cons.mpr ⟨by decide, List.forall_mem_cons.mpr ⟨by decide, ih⟩⟩
  | indent blank _ ih =>
    refine List.forall_mem_cons.mpr ⟨?_, ih⟩
    simp only [isIndent, Bool.or_eq_true, beq_iff_eq] at blank
    rcases blank with rfl | rfl <;> decide

/-- A chain break is read exactly where one stands in front of a dot. -/
theorem readChainBreak_eq_some_iff_exists {before : Option Char} {text after : List Char} {breaks : Nat} :
    readChainBreak before text = some (breaks, after) ↔
      ∃ gap, IsChainBreak gap ∧ lineFeeds gap = breaks ∧ after.head? = some '.' ∧ text = gap ++ after := by
  rw [readChainBreak_eq_some_iff]
  constructor
  · rintro ⟨reading, some, dot⟩
    obtain ⟨gap, parts, count, blank⟩ := exists_blankLines text
    rw [reading] at parts count
    have feeds : 0 < gap.count '\n' := Nat.lt_of_lt_of_eq some count.symm
    exact ⟨gap, ⟨blank, List.count_pos_iff.mp feeds⟩, count, dot, parts⟩
  · rintro ⟨gap, ⟨blank, feed⟩, rfl, dot, rfl⟩
    exact ⟨blank.readBreaks_append dot, List.count_pos_iff.mpr feed, dot⟩

/-! ## Texts with their chains joined -/

/-- A text and the text with its call chains joined. -/
inductive ChainsJoined : List Char → List Char → Prop where
  /-- The end of the text. -/
  | nil : ChainsJoined [] []
  /-- A character at which no chain break stands in front of a dot is kept. -/
  | kept {c : Char} {rest shown : List Char}
      (apart : ∀ gap, IsChainBreak gap → ¬ gap ++ ['.'] <+: c :: rest) (others : ChainsJoined rest shown) :
      ChainsJoined (c :: rest) (c :: shown)
  /-- A chain break in front of a dot is replaced by a blank and a marker for its line breaks. -/
  | joined {gap rest shown : List Char} (isBreak : IsChainBreak gap) (dot : rest.head? = some '.')
      (others : ChainsJoined rest shown) :
      ChainsJoined (gap ++ rest) (' ' :: (lineDelta (lineFeeds gap) ++ shown))

/-- Exactly one text is a text with its call chains joined. -/
theorem chainsJoined_iff {text shown : List Char} : ChainsJoined text shown ↔ shown = joinChains text := by
  constructor
  · intro joined
    induction joined with
    | nil => rw [joinChains_nil]
    | @kept c rest shown apart others ih =>
      have nothing : readChainBreak none (c :: rest) = none := by
        cases read : readChainBreak none (c :: rest) with
        | none => rfl
        | some found =>
          obtain ⟨gap, isBreak, -, dot, parts⟩ := readChainBreak_eq_some_iff_exists.mp read
          obtain ⟨behind, first⟩ := List.head?_eq_some_iff.mp dot
          exact absurd ⟨behind, by rw [parts, first, List.append_assoc]; rfl⟩ (apart gap isBreak)
      rw [joinChains_cons_of_none nothing, ih]
    | @joined gap rest shown isBreak dot others ih =>
      have read : readChainBreak none (gap ++ rest) = some (lineFeeds gap, rest) :=
        readChainBreak_eq_some_iff_exists.mpr ⟨gap, isBreak, rfl, dot, rfl⟩
      rw [joinChains_of_some read, ih]
  · rintro rfl
    -- The cases are those of the scan: at its end, where nothing is read, and where a break is read.
    induction (none : Option Char), text using readsFront_readChainBreak.induction with
    | nil before =>
      rw [joinChains_nil]
      exact .nil
    | char before c rest nothing ih =>
      rw [readChainBreak_before] at nothing
      rw [joinChains_cons_of_none nothing]
      refine .kept (fun gap isBreak => ?_) ih
      rintro ⟨behind, parts⟩
      have read : readChainBreak none (c :: rest) = some (lineFeeds gap, '.' :: behind) :=
        readChainBreak_eq_some_iff_exists.mpr
          ⟨gap, isBreak, rfl, rfl, by rw [← parts, List.append_assoc, List.singleton_append]⟩
      rw [nothing] at read
      cases read
    | construct before written breaks after something read ih =>
      rw [readChainBreak_before] at read
      rw [joinChains_of_some read]
      obtain ⟨gap, isBreak, count, dot, parts⟩ := readChainBreak_eq_some_iff_exists.mp read
      rw [parts, ← count]
      exact .joined isBreak dot ih

/-! ## Line breaks and markers -/

/-- Characters that no marker holds say nothing and keep the markers before them apart from those after
them. -/
theorem deltaDigits_append_append {gap : List Char} (something : gap ≠ [])
    (apart : ∀ c ∈ gap, isDeltaChar c = false) (front after : List Char) :
    deltaDigits (front ++ (gap ++ after)) = deltaDigits front ++ deltaDigits after := by
  induction gap generalizing front with
  | nil => exact absurd rfl something
  | cons c gap ih =>
    obtain ⟨apartFirst, apartOthers⟩ := List.forall_mem_cons.mp apart
    rw [List.cons_append, deltaDigits_append_cons apartFirst]
    by_cases last : gap = []
    · rw [last, List.nil_append]
    · have others := ih last apartOthers []
      rw [List.nil_append, deltaDigits_nil, List.nil_append] at others
      rw [others]

/-- Numerals with others put among them, written for numbers that add up to a given one. -/
inductive Widened : Nat → List (List Char) → List (List Char) → Prop where
  /-- No numerals. -/
  | nil : Widened 0 [] []
  /-- A numeral is kept. -/
  | kept {added : Nat} {numerals wider : List (List Char)} (digits : List Char)
      (others : Widened added numerals wider) : Widened added (digits :: numerals) (digits :: wider)
  /-- A number is put in. -/
  | put {added : Nat} {numerals wider : List (List Char)} (number : Nat) (others : Widened added numerals wider) :
      Widened (number + added) numerals (decimal number :: wider)

namespace Widened

variable {added : Nat} {numerals wider : List (List Char)}

/-- Numerals may stand in front, on both sides. -/
theorem append (front : List (List Char)) (others : Widened added numerals wider) :
    Widened added (front ++ numerals) (front ++ wider) := by
  induction front with
  | nil => exact others
  | cons digits front ih => exact .kept digits ih

theorem refl (numerals : List (List Char)) : Widened 0 numerals numerals := by
  induction numerals with
  | nil => exact .nil
  | cons digits numerals ih => exact .kept digits ih

/-- What is put in is what the numerals are worth more. -/
theorem total_eq (others : Widened added numerals wider) :
    total (wider.map digitsValue) = total (numerals.map digitsValue) + added := by
  induction others with
  | nil => rfl
  | kept digits _ ih => rw [List.map_cons, List.map_cons, total_cons, total_cons, ih, Nat.add_assoc]
  | put number _ ih =>
    rw [List.map_cons, total_cons, digitsValue_decimal, ih]
    omega

/-- Numbers that add up to one with few enough digits are not too long themselves, so the first numeral that is
too long stays the first. -/
theorem find?_long (others : Widened added numerals wider) (few : added < 10 ^ digitLimit) :
    wider.find? (digitLimit < ·.length) = numerals.find? (digitLimit < ·.length) := by
  induction others with
  | nil => rfl
  | kept digits _ ih => rw [List.find?_cons, List.find?_cons, ih few]
  | put number _ ih =>
    have short : (decimal number).length ≤ digitLimit :=
      (Nat.length_toDigits_le_iff (by decide) (by decide)).mpr (by omega)
    rw [List.find?_cons_of_neg (by simpa using short), ih (by omega)]

end Widened

/-- What is put in place of a chain break holds no line feed. -/
theorem lineFeeds_lineDelta (breaks : Nat) : lineFeeds (lineDelta breaks) = 0 := by
  refine List.count_eq_zero.mpr fun member => ?_
  have held := (isLineDelta_lineDelta breaks).isDeltaChar_of_mem member
  exact absurd held (by decide)

/-- **Breaks become markers.** Joining takes out as many line breaks as the markers that it puts in say, whatever
markers or parts of markers stand in the text and in front of it. -/
theorem widened_joinChains (front text : List Char) :
    ∃ added, lineFeeds (joinChains text) + added = lineFeeds text ∧
      Widened added (deltaDigits (front ++ text)) (deltaDigits (front ++ joinChains text)) := by
  -- A marker may start in the characters already passed, so they are carried along.
  induction (none : Option Char), text using readsFront_readChainBreak.induction generalizing front with
  | nil before =>
    rw [joinChains_nil]
    exact ⟨0, rfl, .refl _⟩
  | char before c rest nothing ih =>
    rw [readChainBreak_before] at nothing
    obtain ⟨added, count, others⟩ := ih (front ++ [c])
    simp only [List.append_assoc, List.singleton_append] at others
    refine ⟨added, ?_, ?_⟩
    · rw [joinChains_cons_of_none nothing, lineFeeds, lineFeeds, List.count_cons, List.count_cons]
      rw [lineFeeds, lineFeeds] at count
      omega
    · rw [joinChains_cons_of_none nothing]
      exact others
  | construct before written breaks after something read ih =>
    rw [readChainBreak_before] at read
    obtain ⟨gap, ⟨blank, -⟩, count, -, parts⟩ := readChainBreak_eq_some_iff_exists.mp read
    obtain rfl := List.append_cancel_right parts
    obtain ⟨added, fewer, others⟩ := ih []
    rw [List.nil_append, List.nil_append] at others
    have apart : isDeltaChar ' ' = false := by decide
    have blankFeed : lineFeeds (' ' :: (lineDelta breaks ++ joinChains after)) = lineFeeds (joinChains after) := by
      have noFeed := lineFeeds_lineDelta breaks
      simp only [lineFeeds] at noFeed
      simp [lineFeeds, noFeed]
    refine ⟨breaks + added, ?_, ?_⟩
    · rw [joinChains_of_some read, blankFeed, lineFeeds_append, count]
      omega
    · rw [joinChains_of_some read, deltaDigits_append_cons apart, deltaDigits_lineDelta_append,
        deltaDigits_append_append something blank.isDeltaChar_of_mem]
      exact .append _ (.put breaks others)

/-! ## What joining leaves -/

/-- No line of a joined text but the first goes on with a call chain. -/
theorem startsWithDot_of_mem_tail {text line : List Char} (member : line ∈ (physicalLines (joinChains text)).tail) :
    startsWithDot line = false := by
  have cut := cut_splitLines text
  have whole := joinLines_splitLines text
  obtain ⟨first, lines, parts⟩ := List.exists_cons_of_ne_nil (splitLines_ne_nil text)
  rw [parts] at cut whole
  have joined := physicalLines_joinChains cut
  rw [whole] at joined
  rw [joined, List.tail_cons] at member
  obtain ⟨front, behind, kept⟩ := List.append_of_mem member
  have stays : breakFolds (line :: behind) = false := breakFolds_of_suffix ⟨front, kept.symm⟩
  exact (Bool.or_eq_false_iff.mp stays).1

end Marginalia.Preparation

namespace Marginalia

open Text Marker Preparation

/-- How a text with joined chains relates to the text before. -/
structure JoinedInPlace (text joined : List Char) : Prop where
  /-- The line breaks and those that the markers stand for are as many as before. -/
  conserved : lineFeeds joined + deltaSum joined = lineFeeds text + deltaSum text
  /-- The sum of the markers is told where it was told before; otherwise the marker that cannot be read is the
  same. The markers for the breaks are no obstacle, unless there are more breaks than a numeral can count. -/
  told : lineFeeds text < 10 ^ digitLimit →
    deltaSum? joined = (deltaSum? text).map (· + (lineFeeds text - lineFeeds joined))
  /-- It is the one text that has a marker in place of each chain break in front of a dot, and everything
  else in order. -/
  inPlace : ∀ shown, ChainsJoined text shown ↔ shown = joined
  /-- No line but the first goes on with a call chain. -/
  complete : ∀ line ∈ (physicalLines joined).tail, startsWithDot line = false
  /-- Joining changes nothing more. -/
  final : joinChains joined = joined

/-- **Chains are joined in place.** For every text, also one that holds markers or parts of them, joining
conserves the count of lines, as far as the markers of the text can be read, replaces just the chain breaks,
each by a blank and a marker, and leaves no line that goes on with a chain. A marker that is too long to be read
hides the count before and after. -/
theorem chains_joined_in_place (text : List Char) : JoinedInPlace text (joinChains text) := by
  obtain ⟨added, count, wider⟩ := widened_joinChains [] text
  rw [List.nil_append, List.nil_append] at wider
  have sum : deltaSum (joinChains text) = deltaSum text + added := wider.total_eq
  constructor
  case conserved => omega
  case told =>
    intro few
    have same : longDelta? (joinChains text) = longDelta? text := wider.find?_long (by omega)
    have taken : added = lineFeeds text - lineFeeds (joinChains text) := by omega
    rw [deltaSum?_eq, deltaSum?_eq, same, sum, ← taken]
    cases longDelta? text <;> rfl
  case inPlace => exact fun _ => chainsJoined_iff
  case complete => exact fun _ => startsWithDot_of_mem_tail
  case final => exact joinChains_joinChains text

/-- The sum of the markers is not told of a text whose one marker has zeros in front, although it says one. -/
theorem deltas_untold_of_zeros :
    deltaSum longDelta = 1 ∧ deltaSum? longDelta = .error (.unreadable (digitLimit + 1)) := by
  refine ⟨?_, ?_⟩
  · rw [deltaSum, deltaDigits_longDelta, List.map_singleton, digitsValue_longOne]
    rfl
  · rw [deltaSum?_eq, longDelta?_longDelta, ← length_longOne]

/-- Two breaks taken out between markers that were there before, one of them with a part of another behind it. -/
example : joinChains "/*`2`*/\r\n\t\n .a\r.b/*`\n.c`*/".toList = "/*`2`*/ /*`2`*/.a\r.b/*` /*`1`*/.c`*/".toList := by
  decide +kernel

end Marginalia

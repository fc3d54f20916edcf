import Marginalia.LogicalLine
import Marginalia.Proofs.Text.Lines
import Marginalia.Proofs.Text.Scanning

/-! # Lines and breaks
Which lists of lines and breaks a text can be cut into is said place by place (`Interlaced`): there is one
more line than breaks, each break is one of the two that there are, no line holds a line feed, and no line
ends in a carriage return that would belong to the break behind it. Each such pair of lists is what its joined
text is cut into, and there is no other (`splitLines_eq_iff`). The cut is also found by a scan for breaks from
the left (`splitLines_eq_scan`), so the lines that are tagged and the lines that are fed are the texts between
the same breaks (`text_and_lines_determine_each_other`). -/

namespace Marginalia.Text

/-! ## Lines with breaks between them -/

/-- Lines with breaks between them, so that no break can be taken for another one or for a part of a line. -/
structure Interlaced (lines endings : List (List Char)) : Prop where
  /-- There is one more line than breaks. -/
  oneMore : lines.length = endings.length + 1
  /-- A break is a line feed, alone or behind a carriage return. -/
  breaks : ∀ ending ∈ endings, ending = ['\n'] ∨ ending = ['\r', '\n']
  /-- No line holds a line feed. -/
  whole : ∀ line ∈ lines, '\n' ∉ line
  /-- No line in front of a lone line feed ends in a carriage return. -/
  plain : ∀ pair ∈ lines.zip endings, pair.2 = ['\n'] → pair.1.getLast? ≠ some '\r'

/-- One line without a line feed, and no break. -/
theorem interlaced_singleton {line : List Char} : Interlaced [line] [] ↔ '\n' ∉ line := by
  constructor
  · intro interlaced
    exact interlaced.whole line List.mem_cons_self
  · intro whole
    exact ⟨rfl, by simp, by simpa using whole, by simp⟩

/-- A line and a break in front of others. -/
theorem interlaced_cons {line ending : List Char} {lines endings : List (List Char)} :
    Interlaced (line :: lines) (ending :: endings) ↔
      (ending = ['\n'] ∨ ending = ['\r', '\n']) ∧ '\n' ∉ line ∧
        (ending = ['\n'] → line.getLast? ≠ some '\r') ∧ Interlaced lines endings := by
  constructor
  · intro interlaced
    have breaks := List.forall_mem_cons.mp interlaced.breaks
    have whole := List.forall_mem_cons.mp interlaced.whole
    have plain := List.forall_mem_cons.mp interlaced.plain
    exact ⟨breaks.1, whole.1, plain.1, Nat.succ.inj interlaced.oneMore, breaks.2, whole.2, plain.2⟩
  · rintro ⟨known, first, apart, others⟩
    exact ⟨congrArg Nat.succ others.oneMore, List.forall_mem_cons.mpr ⟨known, others.breaks⟩,
      List.forall_mem_cons.mpr ⟨first, others.whole⟩, List.forall_mem_cons.mpr ⟨apart, others.plain⟩⟩

/-- What a text is cut into is lines with breaks between them. -/
theorem Cut.interlaced {lines endings : List (List Char)} (cut : Cut lines endings) :
    Interlaced lines endings := by
  induction cut with
  | last whole => exact interlaced_singleton.mpr whole
  | feed whole plain _ ih => exact interlaced_cons.mpr ⟨.inl rfl, whole, fun _ => plain, ih⟩
  | both whole _ ih =>
    have notLone : ['\r', '\n'] ≠ ['\n'] := by decide
    exact interlaced_cons.mpr ⟨.inr rfl, whole, fun isLone => absurd isLone notLone, ih⟩

/-- Lines with breaks between them may come out of the cut. -/
theorem Interlaced.cut {lines endings : List (List Char)} (interlaced : Interlaced lines endings) :
    Cut lines endings := by
  induction endings generalizing lines with
  | nil =>
    obtain ⟨line, rfl⟩ := List.length_eq_one_iff.mp interlaced.oneMore
    exact .last (interlaced_singleton.mp interlaced)
  | cons ending endings ih =>
    obtain ⟨line, lines, rfl⟩ := List.exists_cons_of_length_eq_add_one interlaced.oneMore
    obtain ⟨known, whole, plain, others⟩ := interlaced_cons.mp interlaced
    -- Only in front of a lone line feed does it matter how the line ends.
    rcases known with rfl | rfl
    · exact .feed whole (plain rfl) (ih others)
    · exact .both whole (ih others)

/-- The lines and breaks of a text are the only ones that it is joined from. -/
theorem splitLines_eq_iff {text : List Char} {lines endings : List (List Char)} :
    splitLines text = (lines, endings) ↔ joinLines lines endings = text ∧ Interlaced lines endings := by
  constructor
  · intro parts
    have joined := joinLines_splitLines text
    have cut := cut_splitLines text
    rw [parts] at joined cut
    exact ⟨joined, cut.interlaced⟩
  · rintro ⟨rfl, interlaced⟩
    exact splitLines_joinLines interlaced.cut

/-! ## Breaks found from the left -/

/-- Read a line break: a line feed, alone or behind a carriage return. -/
def readLineBreak : Recogniser Unit
  | _, '\n' :: rest => some ((), rest)
  | _, '\r' :: '\n' :: rest => some ((), rest)
  | _, _ => none

variable {α : Type}

/-- The texts between the constructs of a scanned text. -/
def textsBetween : List (Piece α) → List (List Char)
  | [] => [[]]
  | .char c :: pieces => consHead c (textsBetween pieces)
  | .construct _ _ :: pieces => [] :: textsBetween pieces

@[simp] theorem textsBetween_nil : textsBetween ([] : List (Piece α)) = [[]] := rfl

@[simp] theorem textsBetween_char (c : Char) (pieces : List (Piece α)) :
    textsBetween (.char c :: pieces) = consHead c (textsBetween pieces) := rfl

@[simp] theorem textsBetween_construct (written : List Char) (value : α) (pieces : List (Piece α)) :
    textsBetween (.construct written value :: pieces) = [] :: textsBetween pieces := rfl

/-- The constructs of a scanned text, as written. -/
def writtenConstructs : List (Piece α) → List (List Char)
  | [] => []
  | .char _ :: pieces => writtenConstructs pieces
  | .construct written _ :: pieces => written :: writtenConstructs pieces

@[simp] theorem writtenConstructs_nil : writtenConstructs ([] : List (Piece α)) = [] := rfl

@[simp] theorem writtenConstructs_char (c : Char) (pieces : List (Piece α)) :
    writtenConstructs (.char c :: pieces) = writtenConstructs pieces := rfl

@[simp] theorem writtenConstructs_construct (written : List Char) (value : α) (pieces : List (Piece α)) :
    writtenConstructs (.construct written value :: pieces) = written :: writtenConstructs pieces := rfl

/-- A break at the front of a text is read, and the scan goes on behind it. -/
theorem scan_append_break (before : Option Char) {ending : List Char}
    (known : ending = ['\n'] ∨ ending = ['\r', '\n']) (rest : List Char) :
    scan readLineBreak before (ending ++ rest) =
      .construct ending () :: scan readLineBreak ending.getLast? rest := by
  rcases known with rfl | rfl
  · exact scan_append_of_some (List.cons_ne_nil _ _) rfl
  · exact scan_append_of_some (List.cons_ne_nil _ _) rfl

/-- No break is read at a character that starts none. -/
theorem readLineBreak_eq_none {before : Option Char} {c : Char} {rest : List Char} (feed : c ≠ '\n')
    (both : ∀ after, c = '\r' → rest ≠ '\n' :: after) : readLineBreak before (c :: rest) = none := by
  apply readLineBreak.eq_3
  · rintro after same
    exact feed (List.cons.inj same).1
  · rintro after same
    exact both after (List.cons.inj same).1 (List.cons.inj same).2

/-- A scan for breaks from the left finds the breaks that a text is cut at, and between them its lines. -/
theorem splitLines_eq_scan (before : Option Char) (text : List Char) :
    splitLines text = (textsBetween (scan readLineBreak before text),
      writtenConstructs (scan readLineBreak before text)) := by
  -- No break takes notice of the character before it, but the scan goes on with another one.
  fun_induction splitLines text generalizing before with
  | case1 => rw [scan_nil, textsBetween_nil, writtenConstructs_nil]
  | case2 rest ih =>
    have found := scan_append_break before (.inl rfl) rest
    rw [List.singleton_append] at found
    rw [found, textsBetween_construct, writtenConstructs_construct, ih ['\n'].getLast?]
  | case3 rest ih =>
    have found := scan_append_break before (.inr rfl) rest
    rw [List.cons_append, List.singleton_append] at found
    rw [found, textsBetween_construct, writtenConstructs_construct, ih ['\r', '\n'].getLast?]
  | case4 c rest feed both ih =>
    have nothing : readLineBreak before (c :: rest) = none :=
      readLineBreak_eq_none (fun isFeed => feed isFeed) fun after isReturn same => both after isReturn same
    rw [scan_cons_of_none nothing, textsBetween_char, writtenConstructs_char, ih (some c)]

end Marginalia.Text

namespace Marginalia

open Text

/-- **A text and its lines determine each other.** Every text is joined from the lines and breaks that it is
cut into, which are lines with breaks between them, and any lines with breaks between them are those that their
joined text is cut into. The lines are the texts between the breaks that are found from the left, and just
these are fed, whatever the number of the first one. -/
theorem text_and_lines_determine_each_other :
    (∀ text, joinLines (splitLines text).1 (splitLines text).2 = text ∧
      Interlaced (splitLines text).1 (splitLines text).2) ∧
    (∀ lines endings, Interlaced lines endings → splitLines (joinLines lines endings) = (lines, endings)) ∧
    ∀ text first, (planLines text first).map LogicalLine.code = (splitLines text).1 ∧
      splitLines text = (textsBetween (scan readLineBreak none text),
        writtenConstructs (scan readLineBreak none text)) := by
  refine ⟨?_, ?_, ?_⟩
  · intro text
    exact splitLines_eq_iff.mp rfl
  · intro lines endings interlaced
    exact splitLines_eq_iff.mpr ⟨rfl, interlaced⟩
  · intro text first
    refine ⟨?_, splitLines_eq_scan none text⟩
    rw [planLines, map_code_numberLines, physicalLines]

/-- Carriage returns that belong to no break, one of them in front of one that does, with empty lines and a
break at the end. -/
theorem text_and_lines_determine_each_other_of_returns :
    let lines := ["a\r".toList, [], "\rb".toList, []]
    let endings := [['\r', '\n'], ['\n'], ['\n']]
    Interlaced lines endings ∧ splitLines "a\r\r\n\n\rb\n".toList = (lines, endings) := by
  intro lines endings
  have interlaced : Interlaced lines endings := ⟨by decide, by decide, by decide, by decide⟩
  exact ⟨interlaced, text_and_lines_determine_each_other.2.1 lines endings interlaced⟩

end Marginalia

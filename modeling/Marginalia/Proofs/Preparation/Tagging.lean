import Marginalia.Preparation.ConsoleCall
import Marginalia.Proofs.Preparation.Folding

/-! # Tagging console calls
What tagging the console calls of a text leaves as it was. A call is read from its word `console` to
the parenthesis before its arguments (`exists_of_readConsoleCall`), and the text in its place starts
with a letter, ends in a blank and holds neither a line feed nor a slash (`exists_middle`). So
tagging keeps the lines of a text, it keeps which of them go on with a call chain, and it makes no
line-delta marker. -/

namespace Marginalia.Marker

open Text

/-- A number is written with its decimal digits. -/
theorem toList_toString_natCast (n : Nat) : (toString (n : Int)).toList = decimal n := by
  have digits : toString (n : Int) = n.repr := rfl
  rw [digits]
  exact Nat.toList_repr

/-- The beginning of a tagged call starts with a letter and ends in a blank, and between them only
the function may bring in a line feed or a slash. -/
theorem exists_middle (function : List Char) (number : Nat) :
    ∃ middle, consoleCall function number = 'g' :: (middle ++ [' ']) ∧
      ∀ c ∈ middle, c ∈ function ∨ (c ≠ '\n' ∧ c ≠ '/') := by
  have opening : "global['".toList ++ consoleName ++ "'].".toList =
      'g' :: "lobal['`console`'].".toList := by decide
  have quiet : "lobal['`console`'].".toList.all (fun c => c ≠ '\n' ∧ c ≠ '/') = true := by decide
  have bracket : "(".toList = ['('] := rfl
  have closing : ", ".toList = [',', ' '] := rfl
  unfold consoleCall
  rw [toList_toString_natCast, closing, opening, bracket]
  -- What the object is called does not matter from here on.
  generalize "lobal['`console`'].".toList = object at quiet ⊢
  refine ⟨object ++ (function ++ '(' :: (decimal number ++ [','])), by simp, ?_⟩
  intro c member
  rcases List.mem_append.mp member with inObject | member
  · exact .inr (of_decide_eq_true (List.all_eq_true.mp quiet c inObject))
  · rcases List.mem_append.mp member with inFunction | member
    · exact .inl inFunction
    · refine .inr ?_
      rcases List.mem_cons.mp member with rfl | member
      · decide
      · rcases List.mem_append.mp member with digit | member
        · have decimal := isDecimalDigit_of_mem_decimal digit
          exact ⟨ne_of_apply_ne isDecimalDigit (by rw [decimal]; decide),
            ne_of_apply_ne isDecimalDigit (by rw [decimal]; decide)⟩
        · rw [List.mem_singleton.mp member]
          decide

end Marginalia.Marker

namespace Marginalia.Preparation

open Text Marker

/-! ## Reading calls -/

/-- A function that is read is one of those looked for, and it stands in front of the parenthesis
that opens its arguments. -/
theorem exists_of_readFunction {functions : List (List Char)} {text function after : List Char}
    (read : readFunction functions text = some (function, after)) :
    function ∈ functions ∧ ∃ third, Blank third ∧ text = function ++ (third ++ '(' :: after) := by
  have solid : isBlank '(' = false := by decide
  obtain ⟨candidate, member, found⟩ := List.exists_of_findSome?_eq_some read
  obtain ⟨behind, front, found⟩ := Option.bind_eq_some_iff.mp found
  obtain ⟨rest, bracket, same⟩ := Option.bind_eq_some_iff.mp found
  cases same
  obtain ⟨third, blank, parts⟩ := (skipBlanks_eq_cons_iff solid).mp (expect_eq_some_iff.mp bracket)
  refine ⟨member, third, blank, ?_⟩
  rw [expect_eq_some_iff.mp front, parts]
  rfl

/-- What is left by skipping some of the white space in front of a text. -/
theorem mem_blankSkips_iff {text after : List Char} :
    after ∈ blankSkips text ↔ ∃ blanks, Blank blanks ∧ text = blanks ++ after := by
  induction text with
  | nil =>
    rw [blankSkips, List.mem_singleton]
    constructor
    · rintro rfl
      exact ⟨[], List.forall_mem_nil _, rfl⟩
    · rintro ⟨blanks, -, parts⟩
      exact (List.append_eq_nil_iff.mp parts.symm).2
  | cons c text ih =>
    constructor
    · intro member
      rw [blankSkips] at member
      split at member
      · next blank =>
        rcases List.mem_append.mp member with later | whole
        · obtain ⟨blanks, all, parts⟩ := ih.mp later
          exact ⟨c :: blanks, List.forall_mem_cons.mpr ⟨blank, all⟩, congrArg (c :: ·) parts⟩
        · exact ⟨[], List.forall_mem_nil _, (List.mem_singleton.mp whole).symm⟩
      · exact ⟨[], List.forall_mem_nil _, (List.mem_singleton.mp member).symm⟩
    · rintro ⟨blanks, all, parts⟩
      cases blanks with
      | nil =>
        obtain rfl : c :: text = after := parts
        rw [blankSkips]
        split <;> simp
      | cons d blanks =>
        obtain ⟨rfl, rest⟩ := List.cons.inj parts
        obtain ⟨blank, others⟩ := List.forall_mem_cons.mp all
        rw [blankSkips, if_pos blank]
        exact List.mem_append_left _ (ih.mpr ⟨blanks, others, rest⟩)

/-- A call that is read is one of a function looked for, written with its word, a dot and a
parenthesis. -/
theorem exists_of_readConsoleCall {functions : List (List Char)} {before : Option Char}
    {text function after : List Char}
    (read : readConsoleCall functions before text = some (function, after)) :
    function ∈ functions ∧ ∃ first second third, Blank first ∧ Blank second ∧ Blank third ∧
      text = "console".toList ++
        (first ++ '.' :: (second ++ (function ++ (third ++ '(' :: after)))) := by
  have solid : isBlank '.' = false := by decide
  rw [readConsoleCall] at read
  split at read
  · obtain ⟨behind, word, read⟩ := Option.bind_eq_some_iff.mp read
    obtain ⟨rest, dot, read⟩ := Option.bind_eq_some_iff.mp read
    obtain ⟨first, blankFirst, parts⟩ := (skipBlanks_eq_cons_iff solid).mp (expect_eq_some_iff.mp dot)
    obtain ⟨skipped, member, read⟩ := List.exists_of_findSome?_eq_some read
    obtain ⟨second, blankSecond, skips⟩ := mem_blankSkips_iff.mp member
    obtain ⟨known, third, blankThird, call⟩ := exists_of_readFunction read
    refine ⟨known, first, second, third, blankFirst, blankSecond, blankThird, ?_⟩
    rw [expect_eq_some_iff.mp word, parts, skips, call]
    rfl
  · cases read

/-- A call is read only where its word may start. -/
theorem mayStartConsole_of_readConsoleCall {functions : List (List Char)} {before : Option Char}
    {text function after : List Char}
    (read : readConsoleCall functions before text = some (function, after)) :
    mayStartConsole before = true := by
  rw [readConsoleCall] at read
  split at read
  · assumption
  · cases read

/-- Calls are read from the front of a text. -/
theorem readsFront_readConsoleCall (functions : List (List Char)) :
    Recogniser.ReadsFront (readConsoleCall functions) := by
  intro before text function after read
  obtain ⟨-, first, second, third, -, -, -, parts⟩ := exists_of_readConsoleCall read
  refine ⟨"console".toList ++ (first ++ '.' :: (second ++ (function ++ (third ++ ['('])))), ?_, ?_⟩
  · exact fun nothing => absurd (List.append_eq_nil_iff.mp nothing).1 (by decide)
  · rw [parts]
    simp

/-! ## Tagged lines -/

section Line

variable {functions : List (List Char)}
  (identifiers : ∀ function ∈ functions, isIdentifier function = true) (number : Nat)

/-- An identifier holds neither a line feed nor a slash. -/
theorem quiet_of_isIdentifier {name : List Char} (identifier : isIdentifier name = true) :
    ∀ c ∈ name, c ≠ '\n' ∧ c ≠ '/' := by
  cases name with
  | nil => cases identifier
  | cons first others =>
    obtain ⟨start, parts⟩ := Bool.and_eq_true_iff.mp identifier
    intro c member
    rcases List.mem_cons.mp member with rfl | later
    · exact ⟨ne_of_apply_ne isIdentifierStart (by rw [start]; decide),
        ne_of_apply_ne isIdentifierStart (by rw [start]; decide)⟩
    · have part := List.all_eq_true.mp parts c later
      exact ⟨ne_of_apply_ne isIdentifierPart (by rw [part]; decide),
        ne_of_apply_ne isIdentifierPart (by rw [part]; decide)⟩

include identifiers in
/-- What a call is replaced by starts with a letter and ends in a blank, and it holds neither a line
feed nor a slash between them. -/
theorem rendered_call {before : Option Char} {line written function : List Char}
    (member : .construct written function ∈
      scan (readConsoleCall (calledFunctions functions)) before line) :
    ∃ middle, consoleCall function number = 'g' :: (middle ++ [' ']) ∧ ∀ c ∈ middle, c ≠ '\n' ∧ c ≠ '/' := by
  obtain ⟨previous, after, read⟩ := read_of_mem_scan (readsFront_readConsoleCall _) member
  -- Without any functions, a call without a name is looked for.
  have known : function = [] ∨ function ∈ functions := by
    have called := (exists_of_readConsoleCall read).1
    rw [calledFunctions] at called
    split at called
    · exact .inl (List.mem_singleton.mp called)
    · exact .inr called
  obtain ⟨middle, text, quiet⟩ := exists_middle function number
  refine ⟨middle, text, fun c inside => ?_⟩
  rcases quiet c inside with inFunction | apart
  · rcases known with rfl | known
    · cases inFunction
    · exact quiet_of_isIdentifier (identifiers function known) c inFunction
  · exact apart

include identifiers in
/-- Tagging brings no line feed into a line. -/
theorem not_mem_tagLine {line : List Char} (whole : '\n' ∉ line) :
    '\n' ∉ tagLine functions number line := by
  intro member
  rw [tagLine, replace_eq_flatMap] at member
  rcases mem_shown member with kept | ⟨written, function, call, inside⟩
  · rw [flatMap_text_scan] at kept
    exact whole kept
  · obtain ⟨middle, text, quiet⟩ := rendered_call identifiers number call
    rw [text] at inside
    simp only [List.mem_cons, List.mem_append, List.not_mem_nil, or_false] at inside
    rcases inside with first | middle | last
    · exact absurd first (by decide)
    · exact (quiet _ middle).1 rfl
    · exact absurd last (by decide)

include identifiers in
/-- Tagging brings no carriage return to the end of a line. -/
theorem getLast?_tagLine {line : List Char} (last : (tagLine functions number line).getLast? = some '\r') :
    line.getLast? = some '\r' := by
  rw [tagLine, replace_eq_flatMap] at last
  have something : ∀ written function, .construct written function ∈
      scan (readConsoleCall (calledFunctions functions)) none line → consoleCall function number ≠ [] := by
    intro written function call
    obtain ⟨middle, text, -⟩ := rendered_call identifiers number call
    rw [text]
    exact List.cons_ne_nil _ _
  rcases getLast?_shown something last with kept | ⟨written, function, call, ends⟩
  · rwa [flatMap_text_scan] at kept
  · obtain ⟨middle, text, -⟩ := rendered_call identifiers number call
    rw [text, ← List.cons_append, List.getLast?_concat] at ends
    exact absurd ends (by decide)

include identifiers in
/-- Tagging makes no line-delta marker. -/
theorem lacksLineDeltas_tagLine {line : List Char} (lacks : LacksLineDeltas line) :
    LacksLineDeltas (tagLine functions number line) := by
  intro marker written found
  rw [tagLine, replace_eq_flatMap] at found
  have original := infix_of_infix_shown ?_ [] found
  · rw [List.nil_append, flatMap_text_scan] at original
    exact lacks marker written original
  · intro text function call
    obtain ⟨middle, rendered, quiet⟩ := rendered_call identifiers number call
    -- No marker holds the letter or the blank, and none does without a slash.
    refine ⟨'g', middle, ' ', rendered, ?_, ?_, ?_⟩
    · exact fun member => absurd (written.isDeltaChar_of_mem member) (by decide)
    · exact fun member => absurd (written.isDeltaChar_of_mem member) (by decide)
    · exact fun inside => (quiet '/' (inside.mem written.slash_mem)).2 rfl

end Line

/-- Tagging keeps blank lines blank and changes nothing up to the first other character, so the same
lines go on with a call chain. -/
theorem startsWithDot_tagLine (functions : List (List Char)) (number : Nat) (line : List Char) :
    startsWithDot (tagLine functions number line) = startsWithDot line ∧
      (tagLine functions number line).all isIndent = line.all isIndent := by
  rw [tagLine, replace_eq_flatMap]
  have front := readsFront_readConsoleCall (calledFunctions functions)
  induction (none : Option Char), line using front.induction with
  | nil before =>
    rw [scan_nil]
    exact ⟨rfl, rfl⟩
  | char before c rest nothing ih =>
    rw [scan_cons_of_none nothing, List.flatMap_cons, Piece.shown_char, List.singleton_append,
      startsWithDot_cons, startsWithDot_cons, ih.1, List.all_cons, List.all_cons, ih.2]
    exact ⟨rfl, rfl⟩
  | construct before written function after something read =>
    obtain ⟨-, first, second, third, -, -, -, parts⟩ := exists_of_readConsoleCall read
    obtain ⟨middle, text, -⟩ := exists_middle function number
    rw [scan_append_of_some something read, List.flatMap_cons, Piece.shown_construct, text, parts,
      List.cons_append, startsWithDot_cons]
    -- Both texts start with a letter, the call with its word and the tagged one with the object.
    exact ⟨rfl, rfl⟩

/-! ## Tagged texts -/

/-- Tagging keeps the breaks that are taken out. -/
theorem breakFolds_tagLinesFrom (functions : List (List Char)) (number : Nat)
    (lines : List (List Char)) :
    breakFolds (tagLinesFrom functions number lines) = breakFolds lines := by
  induction lines generalizing number with
  | nil => rfl
  | cons line lines ih =>
    obtain ⟨dot, blank⟩ := startsWithDot_tagLine functions number line
    rw [tagLinesFrom, breakFolds, breakFolds, dot, blank, ih]

/-- Tagging lines from some place on goes on with the number of that place. -/
theorem drop_tagLinesFrom (functions : List (List Char)) (number place : Nat) (lines : List (List Char)) :
    (tagLinesFrom functions number lines).drop place =
      tagLinesFrom functions (number + place) (lines.drop place) := by
  induction lines generalizing number place with
  | nil => rw [tagLinesFrom, List.drop_nil, tagLinesFrom]
  | cons line lines ih =>
    cases place with
    | zero => rfl
    | succ place =>
      rw [tagLinesFrom, List.drop_succ_cons, List.drop_succ_cons, ih, Nat.add_right_comm, Nat.add_assoc]

/-- A tagged line stands where the line stood, under the number of its place. -/
theorem getElem?_tagLinesFrom (functions : List (List Char)) (number place : Nat) (lines : List (List Char)) :
    (tagLinesFrom functions number lines)[place]? =
      lines[place]?.map (tagLine functions (number + place)) := by
  induction lines generalizing number place with
  | nil => rfl
  | cons line lines ih =>
    cases place with
    | zero => rfl
    | succ place =>
      rw [tagLinesFrom, List.getElem?_cons_succ, List.getElem?_cons_succ, ih, Nat.add_right_comm, Nat.add_assoc]

section Lines

variable {functions : List (List Char)}
  (identifiers : ∀ function ∈ functions, isIdentifier function = true)

include identifiers in
/-- Tagged lines are cut at the same breaks. -/
theorem cut_tagLinesFrom {lines endings : List (List Char)} (cut : Cut lines endings) (number : Nat) :
    Cut (tagLinesFrom functions number lines) endings := by
  induction cut generalizing number with
  | last whole => exact .last (not_mem_tagLine identifiers number whole)
  | feed whole plain _ ih =>
    exact .feed (not_mem_tagLine identifiers number whole)
      (fun last => plain (getLast?_tagLine identifiers number last)) (ih (number + 1))
  | both whole _ ih => exact .both (not_mem_tagLine identifiers number whole) (ih (number + 1))

include identifiers in
/-- Tagging makes no line-delta markers in any of some lines. -/
theorem lacksLineDeltas_tagLinesFrom {lines : List (List Char)}
    (lacks : ∀ line ∈ lines, LacksLineDeltas line) (number : Nat) :
    ∀ line ∈ tagLinesFrom functions number lines, LacksLineDeltas line := by
  induction lines generalizing number with
  | nil => simp [tagLinesFrom]
  | cons line lines ih =>
    obtain ⟨first, others⟩ := List.forall_mem_cons.mp lacks
    exact List.forall_mem_cons.mpr
      ⟨lacksLineDeltas_tagLine identifiers number first, ih others (number + 1)⟩

end Lines

end Marginalia.Preparation

import Marginalia.Preparation.RequireCall
import Marginalia.Proofs.Preparation.Importing

/-! # Calls that require modules
What is read as a call that requires a module is said by its text (`IsRequire`) and the character before
it. Calls do not overlap: no end of a call stands in front of a text of the shape of one
(`IsRequire.not_isPrefix_of_end`), and none starts within it (`IsRequire.not_isPrefix_of_suffix`). -/

namespace Marginalia.Preparation

open Text File

/-! ## What is read as a call -/

/-- The texts that are read as a call that requires a module. -/
structure IsRequire (call : RequireCall) (written : List Char) : Prop where
  /-- A quotation mark is around the name. -/
  quoted : isQuote call.quote = true
  /-- There is a name. -/
  something : call.written ≠ []
  /-- The name has no other characters than such names have. -/
  all : ∀ c ∈ call.written, isRequiredChar c = true
  /-- The word, the parentheses and the quotes, with nothing but white space between them. -/
  parts : ∃ first second third, Blank first ∧ Blank second ∧ Blank third ∧
    written = "require".toList ++ (first ++ '(' :: (second ++ call.quote :: (call.written ++
      call.quote :: (third ++ [')']))))

/-- A quotation mark stands in no name of a required module. -/
theorem isRequiredChar_of_isQuote {c : Char} (quoted : isQuote c = true) : isRequiredChar c = false := by
  simp only [isQuote, Bool.or_eq_true, beq_iff_eq] at quoted
  rcases quoted with rfl | rfl <;> decide

/-- A call that is read stands in front, where its word may start. -/
theorem exists_of_readRequire {before : Option Char} {text after : List Char} {call : RequireCall}
    (read : readRequire before text = some (call, after)) :
    mayStartKeyword before = true ∧ ∃ written, IsRequire call written ∧ text = written ++ after := by
  have opened : isBlank '(' = false := by decide
  have closed : isBlank ')' = false := by decide
  rw [readRequire] at read
  split at read
  · next starts =>
    obtain ⟨behind, word, read⟩ := Option.bind_eq_some_iff.mp read
    obtain ⟨rest, bracket, read⟩ := Option.bind_eq_some_iff.mp read
    obtain ⟨first, blankFirst, inBehind⟩ := (skipBlanks_eq_cons_iff opened).mp (expect_eq_some_iff.mp bracket)
    split at read
    · next quote inside skipped =>
      split at read
      · next quoted =>
        obtain ⟨second, blankSecond, inRest⟩ :=
          (skipBlanks_eq_cons_iff (isBlank_of_isQuote quoted)).mp skipped
        split at read
        · next c others closing tail span =>
          split at read
          · next same =>
            subst same
            obtain ⟨last, bracket, read⟩ := Option.bind_eq_some_iff.mp read
            obtain ⟨third, blankThird, inTail⟩ :=
              (skipBlanks_eq_cons_iff closed).mp (expect_eq_some_iff.mp bracket)
            cases read
            have whole := spanOf_append isRequiredChar inside
            have all : (spanOf isRequiredChar inside).1.all isRequiredChar = true := List.all_takeWhile
            rw [span] at whole all
            refine ⟨starts, _, ⟨quoted, List.cons_ne_nil _ _, List.all_eq_true.mp all, first, second, third,
              blankFirst, blankSecond, blankThird, rfl⟩, ?_⟩
            rw [expect_eq_some_iff.mp word, inBehind, inRest, ← whole, inTail]
            simp
          · cases read
        · cases read
      · cases read
    · cases read
  · cases read

/-- A call that stands in front is read, if its word may start there. -/
theorem IsRequire.read {call : RequireCall} {written : List Char} (isCall : IsRequire call written)
    {before : Option Char} (starts : mayStartKeyword before = true) (after : List Char) :
    readRequire before (written ++ after) = some (call, after) := by
  obtain ⟨quoted, something, all, first, second, third, blankFirst, blankSecond, blankThird, rfl⟩ := isCall
  obtain ⟨quote, name⟩ := call
  obtain ⟨c, others, rfl⟩ := List.exists_cons_of_ne_nil something
  have outside : ¬ isRequiredChar quote = true := by simp [isRequiredChar_of_isQuote quoted]
  let tail := third ++ ')' :: after
  let inside := (c :: others) ++ quote :: tail
  let behind := first ++ '(' :: (second ++ quote :: inside)
  have word : expect "require".toList ("require".toList ++ behind) = some behind := expect_eq_some_iff.mpr rfl
  have opening : expect ['('] (skipBlanks behind) = some (second ++ quote :: inside) :=
    expect_eq_some_iff.mpr ((skipBlanks_eq_cons_iff (by decide)).mpr ⟨first, blankFirst, rfl⟩)
  have skipped : skipBlanks (second ++ quote :: inside) = quote :: inside :=
    (skipBlanks_eq_cons_iff (isBlank_of_isQuote quoted)).mpr ⟨second, blankSecond, rfl⟩
  have span : spanOf isRequiredChar inside = (c :: others, quote :: tail) := by
    rw [spanOf, List.takeWhile_append_of_pos all, List.dropWhile_append_of_pos all,
      List.takeWhile_cons_of_neg outside, List.dropWhile_cons_of_neg outside, List.append_nil]
  have closing : expect [')'] (skipBlanks tail) = some after :=
    expect_eq_some_iff.mpr ((skipBlanks_eq_cons_iff (by decide)).mpr ⟨third, blankThird, rfl⟩)
  have whole : "require".toList ++ (first ++ '(' :: (second ++ quote :: (c :: others ++
      quote :: (third ++ [')'])))) ++ after = "require".toList ++ behind := by
    simp [behind, inside, tail]
  rw [whole, readRequire, if_pos starts]
  simp only [word, opening, skipped, span, closing, quoted, if_true, Option.bind_eq_bind, Option.bind_some]
  rfl

/-! ## What a call is made of -/

section Parts

variable {call : RequireCall} {written new : List Char}

/-- A call starts with the first letter of its word. -/
theorem IsRequire.head (isCall : IsRequire call written) : ∃ others, written = 'r' :: others := by
  obtain ⟨-, -, -, first, second, third, -, -, -, rfl⟩ := isCall
  exact ⟨_, rfl⟩

/-- A text of the shape of a call: the word and a parenthesis, then no other one up to a closing one. -/
def Enclosed (text : List Char) : Prop := ∃ blanks tail, Blank blanks ∧ '(' ∉ tail ∧
  tail.getLast? = some ')' ∧ text = "require".toList ++ blanks ++ '(' :: tail

/-- A call is of its shape. -/
theorem IsRequire.enclosed (isCall : IsRequire call written) : Enclosed written := by
  obtain ⟨quoted, -, all, first, second, third, blankFirst, blankSecond, blankThird, rfl⟩ := isCall
  refine ⟨first, second ++ call.quote :: (call.written ++ call.quote :: (third ++ [')'])), blankFirst,
    ?_, ?_, ?_⟩
  · have solid : isBlank '(' = false := by decide
    have inName : '(' ∉ call.written := fun member => absurd (all '(' member) (by decide)
    have isQuote : '(' ≠ call.quote := by
      intro same
      rw [← same] at quoted
      exact absurd quoted (by decide)
    simp [blankSecond.not_mem solid, blankThird.not_mem solid, inName, isQuote]
  · simp [List.getLast?_cons]
  · simp

/-- Behind the parenthesis of a call come white space and a quotation mark. -/
theorem IsRequire.exists_quote (isCall : IsRequire call written) : ∃ first second quote tail, Blank first ∧
    Blank second ∧ isQuote quote = true ∧
      written = "require".toList ++ first ++ '(' :: (second ++ quote :: tail) := by
  obtain ⟨quoted, -, -, first, second, third, blankFirst, blankSecond, -, rfl⟩ := isCall
  exact ⟨first, second, call.quote, _, blankFirst, blankSecond, quoted, (List.append_assoc _ _ _).symm⟩

/-- A character other than those of a call stands in none. -/
theorem IsRequire.not_mem (isCall : IsRequire call written) {c : Char} (outside : isRequiredChar c = false)
    (solid : isBlank c = false) (unquoted : isQuote c = false) (noOpen : c ≠ '(') (noClose : c ≠ ')') :
    c ∉ written := by
  obtain ⟨quoted, -, all, first, second, third, blankFirst, blankSecond, blankThird, rfl⟩ := isCall
  have inName {name : List Char} (all : ∀ d ∈ name, isRequiredChar d = true) : c ∉ name := fun member => by
    rw [all c member] at outside
    cases outside
  have isQuote : c ≠ call.quote := by
    rintro rfl
    rw [quoted] at unquoted
    cases unquoted
  have inWord : c ∉ "require".toList := inName (List.all_eq_true.mp (by decide))
  simp only [List.mem_append, List.mem_cons, List.not_mem_nil, or_false, not_or]
  exact ⟨inWord, blankFirst.not_mem solid, noOpen, blankSecond.not_mem solid, isQuote, inName all, isQuote,
    blankThird.not_mem solid, noClose⟩

/-- A text of the shape of a call is not empty. -/
theorem Enclosed.ne_nil (enclosed : Enclosed written) : written ≠ [] := by
  obtain ⟨blanks, tail, -, -, -, rfl⟩ := enclosed
  exact List.append_ne_nil_of_right_ne_nil _ (List.cons_ne_nil _ _)

/-- An end of such a text ends in its last parenthesis. -/
theorem Enclosed.getLast?_of_suffix (enclosed : Enclosed written) {part : List Char}
    (ends : part <:+ written) (something : part ≠ []) : part.getLast? = some ')' := by
  obtain ⟨blanks, tail, -, -, last, parts⟩ := enclosed
  have whole : written.getLast? = some ')' := by
    rw [parts, List.getLast?_append, List.getLast?_cons, last]
    rfl
  obtain ⟨front, rfl⟩ := ends
  rw [List.getLast?_append] at whole
  cases last : part.getLast? with
  | none => exact absurd (List.getLast?_eq_none_iff.mp last) something
  | some c => rwa [last, Option.some_or] at whole

/-- The word of a call holds no parenthesis, and neither does the white space behind it. -/
theorem not_mem_word {blanks : List Char} (blank : Blank blanks) {c : Char} (noLetter : c ∉ "require".toList)
    (solid : isBlank c = false) : c ∉ "require".toList ++ blanks := by
  rw [List.mem_append, not_or]
  exact ⟨noLetter, blank.not_mem solid⟩

/-- The word does not stand in an end of itself, also not with white space behind it. -/
theorem blanks_of_suffix {first second : List Char} (blank : Blank first)
    (ends : "require".toList ++ second <:+ "require".toList ++ first) : second = first := by
  have letters : "require".toList = "re".toList ++ 'q' :: "uire".toList := by decide
  have noLetter : 'q' ∉ "re".toList := by decide
  rw [letters, List.append_assoc, List.append_assoc, List.cons_append, List.cons_append] at ends
  rcases suffix_append_cons ends with ⟨part, inside, same⟩ | behind
  · obtain rfl := eq_of_append_cons noLetter (fun member => noLetter (inside.subset member)) same
    simpa using same
  · have member := behind.subset (List.mem_append_right _ List.mem_cons_self)
    rcases List.mem_append.mp member with letter | inBlanks
    · exact absurd letter (by decide)
    · exact absurd inBlanks (blank.not_mem (by decide))

/-! ## Calls do not overlap -/

/-- No end of a call stands in front of a text of the shape of one, but for the whole call. -/
theorem IsRequire.not_isPrefix_of_end (isCall : IsRequire call written) (enclosed : Enclosed new)
    {part : List Char} (ends : part <:+ written) (something : part ≠ []) (shorter : part ≠ written)
    (after : List Char) : ¬ part <+: new ++ after := by
  intro inside
  have last := isCall.enclosed.getLast?_of_suffix ends something
  obtain ⟨first, tail, blankFirst, noBracket, -, rfl⟩ := isCall.enclosed
  obtain ⟨second, otherTail, blankSecond, -, -, rfl⟩ := enclosed
  have inFirst : '(' ∉ "require".toList ++ first := not_mem_word blankFirst (by decide) (by decide)
  have inSecond : '(' ∉ "require".toList ++ second := not_mem_word blankSecond (by decide) (by decide)
  rw [List.append_assoc, List.cons_append] at inside
  rcases suffix_append_cons ends with ⟨word, inWord, rfl⟩ | inTail
  · obtain ⟨rest, parts⟩ := inside
    rw [List.append_assoc, List.cons_append] at parts
    obtain rfl := eq_of_append_cons (fun member => inFirst (inWord.subset member)) inSecond parts
    exact shorter (by rw [blanks_of_suffix blankFirst inWord])
  · have inWord := prefix_of_prefix_append_cons (fun member => noBracket (inTail.subset member)) inside
    have member : ')' ∈ "require".toList ++ second := inWord.subset (List.mem_of_getLast? last)
    exact not_mem_word blankSecond (by decide) (by decide) member

/-- No call starts within a text of the shape of one. -/
theorem IsRequire.not_isPrefix_of_suffix (isCall : IsRequire call written) (enclosed : Enclosed new)
    {rest : List Char} (ends : rest <:+ new) (something : rest ≠ []) (shorter : rest ≠ new)
    (after : List Char) : ¬ written <+: rest ++ after := by
  rintro ⟨behind, parts⟩
  have last := enclosed.getLast?_of_suffix ends something
  obtain ⟨first, tail, blankFirst, -, -, rfl⟩ := isCall.enclosed
  obtain ⟨second, otherTail, blankSecond, noBracket, -, rfl⟩ := enclosed
  have inFirst : '(' ∉ "require".toList ++ first := not_mem_word blankFirst (by decide) (by decide)
  have inSecond : '(' ∉ "require".toList ++ second := not_mem_word blankSecond (by decide) (by decide)
  rcases suffix_append_cons ends with ⟨word, inWord, rfl⟩ | inTail
  · rw [List.append_assoc, List.append_assoc _ (_ :: _), List.cons_append, List.cons_append] at parts
    obtain rfl := eq_of_append_cons inFirst (fun member => inSecond (inWord.subset member)) parts
    exact shorter (by rw [blanks_of_suffix blankSecond inWord])
  · -- The opening parenthesis of the call would have to stand in front of the closing one.
    obtain ⟨front, rfl⟩ := List.getLast?_eq_some_iff.mp last
    have opening : "require".toList ++ first ++ ['('] <+: front ++ ')' :: after :=
      ⟨tail ++ behind, by simpa using parts⟩
    have noClose : ')' ∉ "require".toList ++ first ++ ['('] := by
      rw [List.mem_append, not_or]
      exact ⟨not_mem_word blankFirst (by decide) (by decide), by decide⟩
    have member : '(' ∈ front := (prefix_of_prefix_append_cons noClose opening).subset (by simp)
    exact noBracket (inTail.subset (List.mem_append_left _ member))

end Parts

end Marginalia.Preparation

import Marginalia.Proofs.Preparation.Tagging

/-! # Tagged calls
After tagging, no line holds a console call that could be tagged again. What is read as a call is
said by its text (`IsCall`) and the character before it; a text in which no call stands at any place
(`LacksCalls`) is left as it is. The text put in place of a call brings in quotes, brackets and the
word `console`, but none of them helps a call to come about, neither within it nor across its ends
(`lacksCalls_tagLine`). -/

namespace Marginalia.Preparation

open Text Marker

/-! ## What is read as a call -/

/-- The texts that are read as a call of one of some functions. -/
def IsCall (functions : List (List Char)) (written : List Char) : Prop :=
  ∃ function ∈ functions, ∃ first second third, Blank first ∧ Blank second ∧ Blank third ∧
    written = "console".toList ++ (first ++ '.' :: (second ++ (function ++ (third ++ ['(']))))

/-- One of some functions is read exactly when its name and a parenthesis stand in front, with
nothing but white space between them. -/
theorem isSome_readFunction {functions : List (List Char)} {text : List Char} :
    (readFunction functions text).isSome = true ↔
      ∃ function ∈ functions, ∃ third, Blank third ∧ function ++ (third ++ ['(']) <+: text := by
  have solid : isBlank '(' = false := by decide
  constructor
  · intro found
    obtain ⟨⟨function, after⟩, read⟩ := Option.isSome_iff_exists.mp found
    obtain ⟨known, third, blank, parts⟩ := exists_of_readFunction read
    exact ⟨function, known, third, blank, after, by simp [parts]⟩
  · rintro ⟨function, known, third, blank, rest, parts⟩
    rw [readFunction, List.findSome?_isSome_iff]
    refine ⟨function, known, ?_⟩
    have front : expect function text = some (third ++ '(' :: rest) :=
      expect_eq_some_iff.mpr (by simp [← parts])
    have bracket : expect ['('] (skipBlanks (third ++ '(' :: rest)) = some rest :=
      expect_eq_some_iff.mpr ((skipBlanks_eq_cons_iff solid).mpr ⟨third, blank, rfl⟩)
    simp only [front, bracket, Option.bind_eq_bind, Option.bind_some]
    rfl

/-- A call is read exactly where the text of one stands in front and the word may start. -/
theorem isSome_readConsoleCall {functions : List (List Char)} {before : Option Char}
    {text : List Char} :
    (readConsoleCall functions before text).isSome = true ↔
      mayStartConsole before = true ∧ ∃ written, IsCall functions written ∧ written <+: text := by
  have solid : isBlank '.' = false := by decide
  constructor
  · intro found
    obtain ⟨⟨function, after⟩, read⟩ := Option.isSome_iff_exists.mp found
    obtain ⟨known, first, second, third, blankFirst, blankSecond, blankThird, parts⟩ :=
      exists_of_readConsoleCall read
    refine ⟨mayStartConsole_of_readConsoleCall read, _,
      ⟨function, known, first, second, third, blankFirst, blankSecond, blankThird, rfl⟩, after, ?_⟩
    rw [parts]
    simp
  · rintro ⟨starts, written,
      ⟨function, known, first, second, third, blankFirst, blankSecond, blankThird, rfl⟩, after, parts⟩
    rw [readConsoleCall, if_pos starts]
    let call := function ++ (third ++ '(' :: after)
    have word : expect "console".toList text = some (first ++ '.' :: (second ++ call)) :=
      expect_eq_some_iff.mpr (by simp [← parts, call])
    have dot : expect ['.'] (skipBlanks (first ++ '.' :: (second ++ call))) = some (second ++ call) :=
      expect_eq_some_iff.mpr ((skipBlanks_eq_cons_iff solid).mpr ⟨first, blankFirst, rfl⟩)
    have found : ((blankSkips (second ++ call)).findSome? (readFunction functions)).isSome = true := by
      rw [List.findSome?_isSome_iff]
      exact ⟨call, mem_blankSkips_iff.mpr ⟨second, blankSecond, rfl⟩,
        isSome_readFunction.mpr ⟨function, known, third, blankThird, after, by simp [call]⟩⟩
    simpa only [word, dot, Option.bind_eq_bind, Option.bind_some] using found

/-- A call that is read ends in the parenthesis that opens its arguments. -/
theorem getLast?_of_readConsoleCall {functions : List (List Char)} {before : Option Char}
    {written function after : List Char}
    (read : readConsoleCall functions before (written ++ after) = some (function, after)) :
    written.getLast? = some '(' := by
  obtain ⟨-, first, second, third, -, -, -, whole⟩ := exists_of_readConsoleCall read
  have parts : written ++ after = "console".toList ++ (first ++ '.' :: (second ++ (function ++
      (third ++ ['('])))) ++ after := by
    rw [whole]
    simp
  rw [List.append_cancel_right parts]
  simp [List.getLast?_cons]

/-- The text put in place of a call, with its quotes, dot, parenthesis and comma in sight. -/
theorem consoleCall_eq (function : List Char) (number : Nat) :
    consoleCall function number = "global['".toList ++ '`' :: ("console".toList ++
      '`' :: ("']".toList ++ '.' :: (function ++ '(' :: (decimal number ++ ',' :: [' '])))) := by
  have name : consoleName = '`' :: ("console".toList ++ ['`']) := by decide
  have dot : "'].".toList = "']".toList ++ ['.'] := by decide
  have bracket : "(".toList = ['('] := by decide
  have comma : ", ".toList = [',', ' '] := by decide
  unfold consoleCall
  rw [toList_toString_natCast, name, dot, bracket, comma]
  simp only [List.append_assoc, List.cons_append, List.nil_append]

/-- The text put in place of a call ends in a blank. -/
theorem getLast?_consoleCall (function : List Char) (number : Nat) :
    (consoleCall function number).getLast? = some ' ' := by
  obtain ⟨middle, text, -⟩ := exists_middle function number
  rw [text, ← List.cons_append, List.getLast?_concat]

/-! ## What a call is made of -/

/-- A call starts with the first letter of its word. -/
theorem IsCall.head {functions : List (List Char)} {written : List Char}
    (call : IsCall functions written) : ∃ others, written = 'c' :: others := by
  obtain ⟨function, -, first, second, third, -, -, -, rfl⟩ := call
  exact ⟨_, rfl⟩

/-- A call ends in the parenthesis that opens its arguments. -/
theorem IsCall.getLast? {functions : List (List Char)} {written : List Char}
    (call : IsCall functions written) : written.getLast? = some '(' := by
  obtain ⟨function, -, first, second, third, -, -, -, rfl⟩ := call
  simp [List.getLast?_cons]

/-- No call starts in front of a character other than those of its word, white space and the dot, if
no dot stands before it. -/
theorem IsCall.not_isPrefix {functions : List (List Char)} {written front rest : List Char} {c : Char}
    (call : IsCall functions written) (noDot : '.' ∉ front) (isDot : c ≠ '.') (solid : isBlank c = false)
    (noLetter : c ∉ "console".toList) : ¬ written <+: front ++ c :: rest := by
  rintro ⟨after, parts⟩
  obtain ⟨function, -, first, second, third, blank, -, -, rfl⟩ := call
  -- The word and the white space after it reach up to the first dot.
  let opening := "console".toList ++ first
  have absent : c ∉ opening := by
    intro member
    rcases List.mem_append.mp member with letter | inBlanks
    · exact noLetter letter
    · exact blank.not_mem solid inBlanks
  have parts : opening ++ '.' :: (second ++ (function ++ (third ++ ['('])) ++ after) =
      front ++ c :: rest := by
    rw [← parts]
    simp [opening]
  have same : opening = front := eq_of_append_cons absent noDot parts
  rw [same] at parts
  exact isDot (List.cons.inj (List.append_cancel_left parts)).1.symm

section Functions

variable {functions : List (List Char)}
  (identifiers : ∀ function ∈ functions, isIdentifier function = true)

include identifiers in
/-- The functions looked for hold no character that no identifier holds. -/
theorem not_mem_of_called {function : List Char} (known : function ∈ calledFunctions functions) {c : Char}
    (noStart : isIdentifierStart c = false) (noPart : isIdentifierPart c = false) : c ∉ function := by
  have called : function = [] ∨ function ∈ functions := by
    rw [calledFunctions] at known
    split at known
    · exact .inl (List.mem_singleton.mp known)
    · exact .inr known
  rcases called with rfl | called
  · exact List.not_mem_nil
  · have identifier := identifiers function called
    cases function with
    | nil => exact List.not_mem_nil
    | cons first others =>
      obtain ⟨start, parts⟩ := Bool.and_eq_true_iff.mp identifier
      rintro member
      rcases List.mem_cons.mp member with rfl | later
      · rw [start] at noStart
        cases noStart
      · rw [List.all_eq_true.mp parts c later] at noPart
        cases noPart

include identifiers in
/-- A call holds no character but those of its word, its function, white space, the dot and the
parenthesis. -/
theorem IsCall.not_mem {written : List Char} (call : IsCall (calledFunctions functions) written) {c : Char}
    (noLetter : c ∉ "console".toList ++ ['.', '(']) (solid : isBlank c = false)
    (noStart : isIdentifierStart c = false) (noPart : isIdentifierPart c = false) : c ∉ written := by
  obtain ⟨function, known, first, second, third, blankFirst, blankSecond, blankThird, rfl⟩ := call
  have noFunction := not_mem_of_called identifiers known noStart noPart
  simp only [List.mem_append, List.mem_cons, List.not_mem_nil, or_false, not_or] at noLetter ⊢
  exact ⟨noLetter.1, blankFirst.not_mem solid, noLetter.2.1, blankSecond.not_mem solid, noFunction,
    blankThird.not_mem solid, noLetter.2.2⟩

/-! ## Texts without calls -/

/-- No call stands at any place of a text, given the character before the text. -/
def LacksCalls (functions : List (List Char)) (before : Option Char) (text : List Char) : Prop :=
  ∀ front written after, text = front ++ (written ++ after) →
    IsCall (calledFunctions functions) written → mayStartConsole (front.getLast?.or before) = false

/-- A line without calls stays as it is, whatever its number. -/
theorem LacksCalls.tagLine {line : List Char} (lacks : LacksCalls functions none line) (number : Nat) :
    tagLine functions number line = line := by
  refine replace_of_silent _ fun front rest parts => ?_
  cases read : readConsoleCall (calledFunctions functions) front.getLast? rest with
  | none => rfl
  | some found =>
    obtain ⟨starts, written, call, after, behind⟩ :=
      isSome_readConsoleCall.mp (Option.isSome_of_eq_some read)
    have blocked := lacks front written after (by rw [parts, behind]) call
    rw [Option.or_none, starts] at blocked
    cases blocked

/-! ## Tagged lines -/

include identifiers in
/-- Where a call stands in front of a tagged text, it stood in front of the text before. -/
theorem IsCall.isPrefix_of_shown {written : List Char} (call : IsCall (calledFunctions functions) written)
    {number : Nat} {before : Option Char} {text : List Char}
    (inside : written <+: (scan (readConsoleCall (calledFunctions functions)) before text).flatMap
      (Piece.shown fun _ function => consoleCall function number)) : written <+: text := by
  have noBracket : '[' ∉ written :=
    call.not_mem identifiers (by decide) (by decide) (by decide) (by decide)
  have last := call.getLast?
  clear call
  have front := readsFront_readConsoleCall (calledFunctions functions)
  -- All that is used of the call is that it holds no bracket and that its last character is not one of
  -- the first word of a tagged call; this goes through the characters before the first tagged call.
  have general : ∀ before text part, '[' ∉ part → (part = [] ∨ part.getLast? = some '(') →
      part <+: (scan (readConsoleCall (calledFunctions functions)) before text).flatMap
        (Piece.shown fun _ function => consoleCall function number) → part <+: text := by
    intro before text
    induction before, text using front.induction with
    | nil before =>
      intro part _ _ inside
      rwa [scan_nil] at inside
    | char before c rest nothing ih =>
      intro part absent ends inside
      rw [scan_cons_of_none nothing, List.flatMap_cons, Piece.shown_char, List.singleton_append] at inside
      rcases List.prefix_cons_iff.mp inside with rfl | ⟨others, rfl, later⟩
      · exact List.nil_prefix
      · refine (List.prefix_cons_inj c).mpr (ih others (List.not_mem_of_not_mem_cons absent) ?_ later)
        cases others with
        | nil => exact .inl rfl
        | cons next others =>
          refine .inr ?_
          rcases ends with empty | last
          · cases empty
          · rwa [List.getLast?_cons_cons] at last
    | construct before written function after something read ih =>
      intro part absent ends inside
      have tagged : ∃ others, consoleCall function number = "global".toList ++ '[' :: others := ⟨_, rfl⟩
      obtain ⟨others, tagged⟩ := tagged
      rw [scan_append_of_some something read, List.flatMap_cons, Piece.shown_construct, tagged,
        List.append_assoc, List.cons_append] at inside
      rcases ends with rfl | last
      · exact List.nil_prefix
      · have word := prefix_of_prefix_append_cons absent inside
        have member : '(' ∈ "global".toList := word.subset (List.mem_of_getLast? last)
        exact absurd member (by decide)
  exact general before text written noBracket (.inr last) inside

include identifiers in
/-- No call starts within the text that is put in place of a call. -/
theorem IsCall.not_isPrefix_of_suffix {written : List Char}
    (call : IsCall (calledFunctions functions) written) {function : List Char}
    (known : function ∈ calledFunctions functions) {number : Nat} {rest : List Char} (some : rest ≠ [])
    (ends : rest <:+ consoleCall function number) (after : List Char) : ¬ written <+: rest ++ after := by
  have noDot : '.' ∉ function := not_mem_of_called identifiers known (by decide) (by decide)
  have digits : '.' ∉ decimal number := fun member =>
    absurd (isDecimalDigit_of_mem_decimal member) (by decide)
  have tagged := consoleCall_eq function number
  have other {c : Char} {text : List Char} (isOther : c ≠ 'c') : ¬ written <+: c :: text := by
    obtain ⟨others, rfl⟩ := call.head
    rintro ⟨behind, same⟩
    exact isOther (List.cons.inj same).1.symm
  -- A call would have to pass one of these characters before its dot.
  have stopped {whole part behind : List Char} {c : Char} (inside : part <:+ whole) (noDot : '.' ∉ whole)
      (stops : c = '`' ∨ c = '(' ∨ c = ',') : ¬ written <+: part ++ c :: behind ++ after := by
    rw [List.append_assoc, List.cons_append]
    refine call.not_isPrefix (fun member => noDot (inside.subset member)) ?_ ?_ ?_ <;>
      rcases stops with rfl | rfl | rfl <;> decide
  rw [tagged] at ends
  rcases suffix_append_cons ends with ⟨part, inside, rfl⟩ | ends
  · exact stopped inside (by decide) (.inl rfl)
  rcases suffix_append_cons ends with ⟨part, inside, rfl⟩ | ends
  · exact stopped inside (by decide) (.inl rfl)
  -- From the second quote to the function, nothing starts with the letter of its word.
  rcases suffix_append_cons ends with ⟨part, inside, rfl⟩ | ends
  · cases part with
    | nil => exact other (by decide)
    | cons c part =>
      have noLetter : 'c' ∉ "']".toList := by decide
      exact other fun isLetter => noLetter (inside.subset (isLetter ▸ List.mem_cons_self))
  rcases suffix_append_cons ends with ⟨part, inside, rfl⟩ | ends
  · exact stopped inside noDot (.inr (.inl rfl))
  rcases suffix_append_cons ends with ⟨part, inside, rfl⟩ | ends
  · exact stopped inside digits (.inr (.inr rfl))
  rcases List.suffix_cons_iff.mp ends with rfl | ends
  · exact other (by decide)
  · exact absurd (List.suffix_nil.mp ends) some

include identifiers in
/-- **No call is left.** In a tagged line no call stands at any place. -/
theorem lacksCalls_tagLine (number : Nat) (line : List Char) :
    LacksCalls functions none (tagLine functions number line) := by
  have front := readsFront_readConsoleCall (calledFunctions functions)
  -- The character before the tagged text may be another one than that before the line, as long as the
  -- word may start after the latter whenever it may start after the former.
  have general : ∀ before line behind, (mayStartConsole behind = true → mayStartConsole before = true) →
      LacksCalls functions behind ((scan (readConsoleCall (calledFunctions functions)) before line).flatMap
        (Piece.shown fun _ function => consoleCall function number)) := by
    intro before line
    induction before, line using front.induction with
    | nil before =>
      intro behind _ place written after parts call
      rw [scan_nil] at parts
      obtain ⟨others, rfl⟩ := call.head
      simp at parts
    | char before c rest nothing ih =>
      intro behind weaker place written after parts call
      cases place with
      | nil =>
        have stood : written <+: c :: rest :=
          call.isPrefix_of_shown identifiers ⟨after, parts.symm⟩
        cases starts : mayStartConsole behind with
        | false => exact starts
        | true =>
          have read := isSome_readConsoleCall.mpr ⟨weaker starts, written, call, stood⟩
          rw [nothing] at read
          cases read
      | cons d place =>
        rw [scan_cons_of_none nothing, List.flatMap_cons, Piece.shown_char, List.singleton_append,
          List.cons_append] at parts
        obtain ⟨rfl, rest⟩ := List.cons.inj parts
        have later := ih (some c) id place written after rest call
        rwa [List.getLast?_cons, Option.some_or, ← Option.or_some]
    | construct before read function after something reads ih =>
      intro behind _ place written rest parts call
      obtain ⟨known, -⟩ := exists_of_readConsoleCall reads
      have ends := getLast?_consoleCall function number
      have opened : mayStartConsole (some ' ') = true → mayStartConsole read.getLast? = true := by
        rw [getLast?_of_readConsoleCall reads]
        decide
      rw [scan_append_of_some something reads, List.flatMap_cons, Piece.shown_construct] at parts
      rcases parts_of_append parts with ⟨later, rfl, behind⟩ | ⟨others, left, inCall, parts⟩
      · -- After the call put in, the word may start just as it may after the call itself.
        have blocked := ih (some ' ') opened later written rest behind call
        rwa [List.getLast?_append, ends, Option.or_assoc, Option.some_or]
      · exact absurd ⟨rest, parts⟩ (call.not_isPrefix_of_suffix identifiers known left inCall _)
  exact general none line none id

end Functions

end Marginalia.Preparation

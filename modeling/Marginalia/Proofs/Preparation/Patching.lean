import Marginalia.Proofs.Preparation.ModulePaths
import Marginalia.Proofs.Preparation.TaggedCalls
import Marginalia.Proofs.Text.Words

/-! # Patched texts
Tagging and joining put texts in place of others. A text is patched where this brings no call about that
requires a module (`Guarded`): no end of a call stands in front of the new text, no call starts within it,
and where a call may start behind it, it could start behind the old one. So the calls of a patched text are
calls of the text before, and where these stay as they are, the others do (`AtRest.of_patched`). -/

namespace Marginalia.Preparation

open Text Marker File

/-! ## Texts in place of others -/

/-- A text may stand in place of another without a call coming about. -/
structure Guarded (old new : List Char) : Prop where
  /-- Something is replaced. -/
  replaced : old ≠ []
  /-- Something is put in place. -/
  something : new ≠ []
  /-- Where the word of a call may start behind the new text, it might behind the old one. -/
  opens : mayStartKeyword new.getLast? = true → mayStartKeyword old.getLast? = true
  /-- No call goes on into the new text. -/
  ends : ∀ {call written part}, IsRequire call written → part <:+ written → part ≠ [] →
    ∀ after, ¬ part <+: new ++ after
  /-- No call starts in the new text. -/
  starts : ∀ {call written rest}, IsRequire call written → rest <:+ new → rest ≠ [] →
    ∀ after, ¬ written <+: rest ++ after

/-- The second text is the first with some texts in place of others. -/
inductive Patched : List Char → List Char → Prop where
  /-- Nothing is left to replace. -/
  | nil : Patched [] []
  /-- A character stays. -/
  | char (c : Char) {old new : List Char} (rest : Patched old new) : Patched (c :: old) (c :: new)
  /-- A text is put in place of another. -/
  | patch {first second old new : List Char} (guarded : Guarded first second) (rest : Patched old new) :
    Patched (first ++ old) (second ++ new)

/-- A text with nothing replaced. -/
theorem Patched.refl (text : List Char) : Patched text text := by
  induction text with
  | nil => exact .nil
  | cons c text ih => exact .char c ih

/-- Patched texts put together. -/
theorem Patched.append {first second old new : List Char} (front : Patched first second)
    (behind : Patched old new) : Patched (first ++ old) (second ++ new) := by
  induction front with
  | nil => exact behind
  | char c _ ih => exact .char c ih
  | patch guarded _ ih =>
    rw [List.append_assoc, List.append_assoc]
    exact .patch guarded ih

/-- Replacing the constructs of a text patches it, if what is put in place may stand there. -/
theorem patched_shown {α : Type} {recognise : Recogniser α} (front : recognise.ReadsFront)
    {render : List Char → α → List Char}
    (guarded : ∀ before written value after, written ≠ [] →
      recognise before (written ++ after) = some (value, after) → Guarded written (render written value))
    (before : Option Char) (text : List Char) :
    Patched text ((scan recognise before text).flatMap (Piece.shown render)) := by
  induction before, text using front.induction with
  | nil before =>
    rw [scan_nil]
    exact .nil
  | char before c rest nothing ih =>
    rw [scan_cons_of_none nothing]
    exact .char c ih
  | construct before written value after something read ih =>
    rw [scan_append_of_some something read]
    exact .patch (guarded before written value after something read) ih

/-! ## Calls in patched texts -/

/-- An end of a call in front of a patched text stood in front of the text before. -/
theorem Patched.isPrefix_of_end {old new : List Char} (patched : Patched old new) {call : RequireCall}
    {written : List Char} (isCall : IsRequire call written) {part : List Char} (ends : part <:+ written)
    (inside : part <+: new) : part <+: old := by
  induction patched generalizing part with
  | nil => exact inside
  | char c _ ih =>
    rcases List.prefix_cons_iff.mp inside with rfl | ⟨others, rfl, later⟩
    · exact List.nil_prefix
    · exact (List.prefix_cons_inj c).mpr (ih ((List.suffix_cons _ _).trans ends) later)
  | patch guarded =>
    by_cases something : part = []
    · exact something ▸ List.nil_prefix
    · exact absurd inside (guarded.ends isCall ends something _)

/-- **Calls are kept.** Where the calls of a text stay as they are, those of the patched text do. -/
theorem AtRest.of_patched {tree : Tree} {context : Module.Context} {before other : Option Char}
    {old new : List Char} (rest : AtRest tree context before old) (patched : Patched old new)
    (weaker : mayStartKeyword other = true → mayStartKeyword before = true) :
    AtRest tree context other new := by
  induction patched generalizing before other with
  | nil =>
    intro front call written after parts isCall _
    obtain ⟨others, rfl⟩ := isCall.head
    simp at parts
  | @char c old new patched ih =>
    intro front call written after parts isCall starts
    cases front with
    | nil =>
      obtain ⟨tail, behind⟩ :=
        (Patched.char c patched).isPrefix_of_end isCall (List.suffix_refl written) ⟨after, parts.symm⟩
      exact rest [] call written tail behind.symm isCall (weaker starts)
    | cons d front =>
      obtain ⟨rfl, behind⟩ := List.cons.inj parts
      have whole : AtRest tree context before ([c] ++ old) := rest
      refine ih (whole.of_append (List.cons_ne_nil c [])) id front call written after behind isCall ?_
      rwa [List.getLast?_cons, Option.some_or, ← Option.or_some] at starts
  | @patch first second old new guarded patched ih =>
    intro front call written after parts isCall starts
    rcases parts_of_append parts with ⟨later, rfl, behind⟩ | ⟨others, something, inPatch, behind⟩
    · refine ih (rest.of_append guarded.replaced) guarded.opens later call written after behind isCall ?_
      obtain ⟨start, c, same⟩ := (List.eq_nil_or_concat second).resolve_left guarded.something
      rw [List.getLast?_append, same, List.concat_eq_append, List.getLast?_concat, Option.or_assoc,
        Option.some_or] at starts
      rwa [same, List.concat_eq_append, List.getLast?_concat]
    · exact absurd ⟨after, behind⟩ (guarded.starts isCall inPatch something new)

/-! ## Tagging and joining -/

/-- No call goes on into a text up to a character that no call holds, if no closing parenthesis stands
before it. -/
theorem IsRequire.not_isPrefix_of_stop {call : RequireCall} {written part left right : List Char} {c : Char}
    (isCall : IsRequire call written) (ends : part <:+ written) (something : part ≠ [])
    (absent : c ∉ written) (noClose : ')' ∉ left) (after : List Char) :
    ¬ part <+: left ++ c :: right ++ after := by
  intro inside
  rw [List.append_assoc, List.cons_append] at inside
  have inLeft := prefix_of_prefix_append_cons (fun member => absent (ends.subset member)) inside
  exact noClose (inLeft.subset (List.mem_of_getLast? (isCall.enclosed.getLast?_of_suffix ends something)))

/-- The word of a call may start behind white space. -/
theorem mayStartKeyword_of_isBlank {c : Char} (blank : isBlank c = true) :
    mayStartKeyword (some c) = true := by
  have dollar : c ≠ '$' := ne_of_apply_ne isBlank (by rw [blank]; decide)
  have dot : c ≠ '.' := ne_of_apply_ne isBlank (by rw [blank]; decide)
  simp [mayStartKeyword, joinsKeyword, isWord_of_isBlank blank, dollar, dot]

/-- A digit of a number is neither white space nor a quotation mark. -/
theorem plain_of_mem_decimal {n : Nat} {c : Char} (member : c ∈ decimal n) :
    isBlank c = false ∧ isQuote c = false := by
  have digit := Nat.isDigit_of_mem_toDigits (by decide) (by decide) member
  obtain ⟨low, high⟩ : 48 ≤ c.toNat ∧ c.toNat ≤ 57 := Char.isDigit_iff_toNat.mp digit
  have quote : c ≠ '"' := ne_of_apply_ne Char.isDigit (by rw [digit]; decide)
  have apostrophe : c ≠ '\'' := ne_of_apply_ne Char.isDigit (by rw [digit]; decide)
  refine ⟨?_, by simp [isQuote, quote, apostrophe]⟩
  simp only [isBlank, Bool.or_eq_false_iff, Bool.and_eq_false_iff, decide_eq_false_iff_not,
    beq_eq_false_iff_ne]
  omega

/-- No call starts in a text that goes on with the number of a line where a call has its name. -/
theorem IsRequire.not_isPrefix_of_number {call : RequireCall} {written left rest : List Char} {number : Nat}
    (isCall : IsRequire call written) (noBracket : '(' ∉ left)
    (ends : rest <:+ left ++ '(' :: (decimal number ++ [',', ' '])) (something : rest ≠ [])
    (after : List Char) : ¬ written <+: rest ++ after := by
  rintro ⟨behind, parts⟩
  rcases suffix_append_cons ends with ⟨word, inLeft, rfl⟩ | inDigits
  · obtain ⟨first, second, quote, tail, blankFirst, blankSecond, quoted, rfl⟩ := isCall.exists_quote
    have noWord : '(' ∉ "require".toList ++ first := not_mem_word blankFirst (by decide) (by decide)
    have parts : "require".toList ++ first ++ '(' :: (second ++ quote :: (tail ++ behind)) =
        word ++ '(' :: (decimal number ++ ([',', ' '] ++ after)) := by simpa using parts
    obtain rfl := eq_of_append_cons noWord (fun member => noBracket (inLeft.subset member)) parts
    obtain ⟨-, same⟩ := List.cons.inj (List.append_cancel_left parts)
    have written : decimal number ≠ [] := Nat.toDigits_ne_nil
    obtain ⟨c, digits, digit⟩ := List.exists_cons_of_ne_nil written
    obtain ⟨solid, unquoted⟩ := plain_of_mem_decimal (digit ▸ List.mem_cons_self : c ∈ decimal number)
    rw [digit, List.cons_append] at same
    cases second with
    | nil =>
      obtain ⟨rfl, -⟩ := List.cons.inj same
      rw [quoted] at unquoted
      cases unquoted
    | cons b second =>
      obtain ⟨rfl, -⟩ := List.cons.inj same
      rw [blankSecond b List.mem_cons_self] at solid
      cases solid
  · obtain ⟨others, rfl⟩ := isCall.head
    obtain ⟨c, rest, rfl⟩ := List.exists_cons_of_ne_nil something
    obtain ⟨rfl, -⟩ := List.cons.inj parts
    rcases List.mem_append.mp (inDigits.subset List.mem_cons_self) with digit | other
    · exact absurd (isDecimalDigit_of_mem_decimal digit) (by decide)
    · exact absurd other (by decide)

/-- The text put in place of a console call brings no call about. -/
theorem guarded_consoleCall {functions : List (List Char)}
    (identifiers : ∀ function ∈ functions, isIdentifier function = true) {before : Option Char}
    {written function after : List Char}
    (read : readConsoleCall (calledFunctions functions) before (written ++ after) = some (function, after))
    (number : Nat) : Guarded written (consoleCall function number) := by
  have last := getLast?_of_readConsoleCall read
  have known := (exists_of_readConsoleCall read).1
  have tagged := consoleCall_eq function number
  refine ⟨?_, ?_, fun _ => ?_, fun isRequire ends something after => ?_,
    fun isRequire ends something after => ?_⟩
  · rintro rfl
    cases last
  · intro nothing
    have blank := getLast?_consoleCall function number
    rw [nothing] at blank
    cases blank
  · rw [last]
    decide
  · rw [tagged]
    exact isRequire.not_isPrefix_of_stop ends something
      (isRequire.not_mem (by decide) (by decide) (by decide) (by decide) (by decide)) (by decide) after
  · obtain ⟨left, noBracket, whole⟩ : ∃ left, '(' ∉ left ∧
        consoleCall function number = left ++ '(' :: (decimal number ++ [',', ' ']) := by
      refine ⟨"global['".toList ++ '`' :: ("console".toList ++ '`' :: ("']".toList ++ '.' :: function)),
        ?_, ?_⟩
      · have noFunction : '(' ∉ function := not_mem_of_called identifiers known (by decide) (by decide)
        simpa using noFunction
      · rw [tagged]
        simp
    exact isRequire.not_isPrefix_of_number noBracket (whole ▸ ends) something after

/-- The marker put in place of a chain break brings no call about. -/
theorem guarded_lineDelta {before : Option Char} {written after : List Char} {breaks : Nat}
    (something : written ≠ []) (read : readChainBreak before (written ++ after) = some (breaks, after)) :
    Guarded written (' ' :: lineDelta breaks) := by
  have noLetter : 'r' ∉ ' ' :: lineDelta breaks := by
    intro member
    rcases List.mem_cons.mp member with blank | inMarker
    · cases blank
    · exact absurd ((isLineDelta_lineDelta breaks).isDeltaChar_of_mem inMarker) (by decide)
  refine ⟨something, List.cons_ne_nil _ _, fun _ => ?_, fun isRequire ends something after => ?_,
    fun isRequire ends something after => ?_⟩
  · obtain ⟨reading, -⟩ := readChainBreak_eq_some_iff.mp read
    obtain ⟨gap, parts, -, blank⟩ := readBreaks_written (written ++ after)
    rw [reading] at parts
    obtain rfl := List.append_cancel_right parts
    obtain ⟨front, c, rfl⟩ := (List.eq_nil_or_concat written).resolve_left something
    rw [List.concat_eq_append] at blank ⊢
    rw [List.getLast?_concat]
    exact mayStartKeyword_of_isBlank (blank c (by simp))
  · have text : ' ' :: lineDelta breaks =
        [' ', '/'] ++ '*' :: ('`' :: (decimal breaks ++ deltaClosing)) := rfl
    rw [text]
    exact isRequire.not_isPrefix_of_stop ends something
      (isRequire.not_mem (by decide) (by decide) (by decide) (by decide) (by decide)) (by decide) after
  · obtain ⟨others, rfl⟩ := isRequire.head
    obtain ⟨c, rest, rfl⟩ := List.exists_cons_of_ne_nil something
    rintro ⟨behind, parts⟩
    obtain ⟨rfl, -⟩ := List.cons.inj parts
    exact noLetter (ends.subset List.mem_cons_self)

/-- Tagging the console calls of a text patches it. -/
theorem patched_tagCalls {functions : List (List Char)}
    (identifiers : ∀ function ∈ functions, isIdentifier function = true) (text : List Char) :
    Patched text (tagCalls functions text) := by
  have line (number : Nat) (line : List Char) : Patched line (tagLine functions number line) :=
    patched_shown (readsFront_readConsoleCall _)
      (fun _ _ _ _ _ read => guarded_consoleCall identifiers read number) none line
  have general : ∀ {lines endings : List (List Char)} (number : Nat),
      Patched (joinLines lines endings) (joinLines (tagLinesFrom functions number lines) endings) := by
    intro lines
    induction lines with
    | nil => exact fun _ => .nil
    | cons first lines ih =>
      intro endings number
      cases endings with
      | nil => exact (line number first).append (ih (number + 1))
      | cons ending endings =>
        exact (line number first).append ((Patched.refl ending).append (ih (number + 1)))
  have whole := joinLines_splitLines text
  have tagged : Patched (joinLines (splitLines text).1 (splitLines text).2) (tagCalls functions text) :=
    general 1
  rwa [whole] at tagged

/-- Joining the chains of a text patches it. -/
theorem patched_joinChains (text : List Char) : Patched text (joinChains text) :=
  patched_shown readsFront_readChainBreak (fun _ _ _ _ => guarded_lineDelta) none text

end Marginalia.Preparation

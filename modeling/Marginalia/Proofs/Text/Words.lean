import Marginalia.Text.Category
import Marginalia.Proofs.Text.Lines
import Marginalia.Proofs.Text.Scanning
import Marginalia.Proofs.Text.Trimming

/-! # Words of a text
A word stands in a text where no word character is next to it (`HasWord`). A character that is not in
the word cuts the text into two, and the word stands in one of them (`alone_of_append_cons`). -/

namespace Marginalia.Text

/-- No word character stands at the end of one text or at the start of another, so that a word put
between them stands alone. -/
def Alone (front after : List Char) : Prop :=
  front.getLast?.any isWord = false ∧ after.head?.any isWord = false

/-- A word stands in a text. -/
def HasWord (word text : List Char) : Prop :=
  ∃ front after, text = front ++ (word ++ after) ∧ Alone front after

/-- A word that stands in a text is a part of it. -/
theorem HasWord.isInfix {word text : List Char} (stands : HasWord word text) : word <:+: text := by
  obtain ⟨front, after, rfl, -⟩ := stands
  exact ⟨front, after, List.append_assoc _ _ _⟩

/-- A word stands in a longer text, if the character after the shorter one is no part of a word. -/
theorem HasWord.append_cons_right {word left : List Char} (stands : HasWord word left) {c : Char}
    (other : isWord c = false) (right : List Char) : HasWord word (left ++ c :: right) := by
  obtain ⟨front, after, rfl, alone⟩ := stands
  refine ⟨front, after ++ c :: right, by simp, alone.1, ?_⟩
  cases after with
  | nil => exact other
  | cons d after => exact alone.2

/-- A word stands in a longer text, if the character before the shorter one is no part of a word. -/
theorem HasWord.append_cons_left {word right : List Char} (stands : HasWord word right) {c : Char}
    (other : isWord c = false) (left : List Char) : HasWord word (left ++ c :: right) := by
  obtain ⟨front, after, rfl, alone⟩ := stands
  refine ⟨left ++ c :: front, after, by simp, ?_, alone.2⟩
  rw [List.getLast?_append, List.getLast?_cons]
  cases last : front.getLast? with
  | none => exact other
  | some d =>
    have before := alone.1
    rwa [last] at before

/-- A word that stands on a line stands in the text. -/
theorem HasWord.of_mem_lines {word line : List Char} {lines endings : List (List Char)}
    (stands : HasWord word line) (cut : Cut lines endings) (member : line ∈ lines) :
    HasWord word (joinLines lines endings) := by
  have feed : isWord '\n' = false := by decide
  have both : isWord '\r' = false := by decide
  induction cut with
  | last whole =>
    rw [List.mem_singleton.mp member] at stands
    rwa [joinLines, joinLines_nil, List.append_nil]
  | @feed first others endings whole plain rest ih =>
    rcases List.mem_cons.mp member with rfl | later
    · exact stands.append_cons_right feed _
    · exact (ih later).append_cons_left feed first
  | @both first others endings whole rest ih =>
    rcases List.mem_cons.mp member with rfl | later
    · exact stands.append_cons_right both _
    · have behind := (ih later).append_cons_left feed (first ++ ['\r'])
      rwa [List.append_assoc] at behind

/-- The codes of white space. -/
def blankCodes : List Nat :=
  List.range' 0x9 5 ++ List.range' 0x1C 5 ++ List.range' 0x2000 11 ++
    [0x85, 0xA0, 0x1680, 0x2028, 0x2029, 0x202F, 0x205F, 0x3000]

/-- White space is in no class of characters that holds none of its codes. -/
theorem not_of_isBlank {inside : Char → Bool} (codes : ∀ code ∈ blankCodes, inside (Char.ofNat code) = false)
    {c : Char} (blank : isBlank c = true) : inside c = false := by
  have member : c.toNat ∈ blankCodes := by
    simp only [isBlank, Bool.or_eq_true, Bool.and_eq_true, decide_eq_true_eq, beq_iff_eq] at blank
    simp only [blankCodes, List.mem_append, List.mem_range'_1, List.mem_cons, List.not_mem_nil, or_false]
    omega
  rw [← Char.ofNat_toNat c]
  exact codes c.toNat member

/-- White space is no part of a word. -/
theorem isWord_of_isBlank {c : Char} (blank : isBlank c = true) : isWord c = false :=
  not_of_isBlank (by decide +kernel) blank

/-- White space starts no identifier. -/
theorem isIdentifierStart_of_isBlank {c : Char} (blank : isBlank c = true) : isIdentifierStart c = false :=
  not_of_isBlank (by decide +kernel) blank

/-- White space continues no identifier. -/
theorem isIdentifierPart_of_isBlank {c : Char} (blank : isBlank c = true) : isIdentifierPart c = false :=
  not_of_isBlank (by decide +kernel) blank

/-- White space is no part of a name. -/
theorem isNamePart_of_isBlank {c : Char} (blank : isBlank c = true) : isNamePart c = false := by
  have dollar : c ≠ '$' := by
    rintro rfl
    exact absurd blank (by decide)
  simp [isNamePart, isWord_of_isBlank blank, dollar]

/-- A character of a name is no white space. -/
theorem isBlank_of_isNamePart {c : Char} (part : isNamePart c = true) : isBlank c = false := by
  cases blank : isBlank c with
  | false => rfl
  | true =>
    rw [isNamePart_of_isBlank blank] at part
    cases part

/-- After white space and another character that is no part of a word, no word goes on. -/
theorem Blank.not_isWord_head {blanks : List Char} (blank : Blank blanks) {c : Char}
    (other : isWord c = false) (rest : List Char) :
    (blanks ++ c :: rest).head?.any isWord = false := by
  cases blanks with
  | nil => exact other
  | cons d blanks => exact isWord_of_isBlank (blank d List.mem_cons_self)

/-- A word between two texts, with a character in them that it does not hold: the word stands in front
of the character or behind it. -/
theorem alone_of_append_cons {c : Char} {word front after left right : List Char} (absent : c ∉ word)
    (parts : left ++ c :: right = front ++ (word ++ after)) (alone : Alone front after) :
    (HasWord word left ∧ ∃ others, left = front ++ (word ++ others) ∧ after = others ++ c :: right) ∨
      ∃ others, right = others ++ (word ++ after) ∧ Alone others after := by
  rcases parts_of_append_cons absent parts with ⟨others, rfl⟩ | ⟨others, rfl, behind⟩
  · have rest : after = others ++ c :: right := by simpa using parts.symm
    refine .inl ⟨⟨front, others, rfl, alone.1, ?_⟩, others, rfl, rest⟩
    cases others with
    | nil => rfl
    | cons d others =>
      have next := alone.2
      rwa [rest, List.cons_append, List.head?_cons] at next
  · refine .inr ⟨others, behind, ?_, alone.2⟩
    cases last : others.getLast? with
    | none => rfl
    | some d =>
      have before := alone.1
      rwa [List.getLast?_append, List.getLast?_cons, last, Option.getD_some, Option.some_or] at before

end Marginalia.Text

import Marginalia.Text.Blank

/-! # Trimmed texts
What is left of a text when the characters of a class are dropped at one of its ends. -/

namespace Marginalia.Text

/-- Nothing is left of a text of characters to drop. -/
theorem dropWhile_of_all {drops : Char → Bool} {text : List Char} (all : text.all drops = true) :
    text.dropWhile drops = [] := by
  rw [← List.append_nil text, List.dropWhile_append_of_pos (List.all_eq_true.mp all), List.dropWhile_nil]

/-- Something is left of a text that holds other characters, and it starts with one of them. -/
theorem exists_dropWhile_eq_cons {drops : Char → Bool} {text : List Char}
    (other : text.all drops = false) :
    ∃ c rest, text.dropWhile drops = c :: rest ∧ drops c = false := by
  induction text with
  | nil => simp at other
  | cons c text ih =>
    cases first : drops c with
    | true =>
      have others : text.all drops = false := by simpa [first] using other
      rw [List.dropWhile_cons_of_pos first]
      exact ih others
    | false =>
      have kept : ¬ drops c = true := by simp [first]
      exact ⟨c, text, List.dropWhile_cons_of_neg kept, first⟩

@[simp] theorem trimEndBy_nil (drops : Char → Bool) : trimEndBy drops [] = [] := rfl

/-- Nothing is left before a text of characters to drop. -/
theorem trimEndBy_of_all {drops : Char → Bool} {text : List Char} (all : text.all drops = true) :
    trimEndBy drops text = [] := by
  have reversed : text.reverse.all drops = true := by rwa [List.all_reverse]
  rw [trimEndBy, dropWhile_of_all reversed, List.reverse_nil]

/-- A character in front of a text is kept, unless nothing but characters to drop comes with it. -/
theorem trimEndBy_cons {drops : Char → Bool} {c : Char} {text : List Char}
    (kept : (c :: text).all drops = false) : trimEndBy drops (c :: text) = c :: trimEndBy drops text := by
  rw [trimEndBy, List.reverse_cons, List.dropWhile_append]
  cases empty : (text.reverse.dropWhile drops).isEmpty with
  | false => simp [trimEndBy]
  | true =>
    have nothing := List.isEmpty_iff.mp empty
    have all : ∀ other ∈ text, drops other = true := by
      intro other member
      have parts : text.reverse.takeWhile drops ++ text.reverse.dropWhile drops = text.reverse :=
        List.takeWhile_append_dropWhile
      rw [nothing, List.append_nil] at parts
      rw [← List.mem_reverse, ← parts] at member
      exact List.all_eq_true.mp List.all_takeWhile other member
    have first : drops c = false := by
      simpa [List.all_eq_true.mpr all] using kept
    simp [trimEndBy, nothing, first]

/-- A text without its trailing characters is a beginning of it. -/
theorem trimEndBy_isPrefix (drops : Char → Bool) (text : List Char) : trimEndBy drops text <+: text := by
  have dropped : text.reverse.dropWhile drops <:+ text.reverse := List.dropWhile_suffix drops
  rw [← List.reverse_prefix, List.reverse_reverse] at dropped
  exact dropped

/-- Characters to drop at the end of a text make no difference. -/
theorem trimEndBy_append_dropped {drops : Char → Bool} {dropped : List Char}
    (all : ∀ d ∈ dropped, drops d = true) (text : List Char) :
    trimEndBy drops (text ++ dropped) = trimEndBy drops text := by
  have reversed : ∀ d ∈ dropped.reverse, drops d = true := fun d member => all d (List.mem_reverse.mp member)
  rw [trimEndBy, List.reverse_append, List.dropWhile_append_of_pos reversed, ← trimEndBy]

/-- A text is kept up to its last character that is not dropped. -/
theorem trimEndBy_append_cons {drops : Char → Bool} {c : Char} (kept : drops c = false)
    (front text : List Char) : trimEndBy drops (front ++ c :: text) = front ++ c :: trimEndBy drops text := by
  induction front with
  | nil => exact trimEndBy_cons (by simp [kept])
  | cons d front ih =>
    have some : (d :: (front ++ c :: text)).all drops = false := by simp [kept]
    rw [List.cons_append, trimEndBy_cons some, ih, List.cons_append]

/-- Characters to drop behind another one are all that is dropped. -/
theorem trimEndBy_append_of_all {drops : Char → Bool} {text dropped : List Char} {c : Char}
    (kept : drops c = false) (all : ∀ d ∈ dropped, drops d = true) :
    trimEndBy drops (text ++ c :: dropped) = text ++ [c] := by
  rw [trimEndBy_append_cons kept, trimEndBy_of_all (List.all_eq_true.mpr all)]

/-- Where a text starts and ends with characters that are kept, what is dropped stands behind it. -/
theorem trimBy_append {drops : Char → Bool} {text : List Char} (something : text ≠ [])
    (first : ∀ c ∈ text.head?, drops c = false) (last : ∀ c ∈ text.getLast?, drops c = false)
    (behind : List Char) : trimBy drops (text ++ behind) = text ++ trimEndBy drops behind := by
  have start : trimStartBy drops (text ++ behind) = text ++ behind := by
    obtain ⟨c, others, rfl⟩ := List.exists_cons_of_ne_nil something
    exact List.dropWhile_cons_of_neg (Bool.not_eq_true _ ▸ first c rfl)
  obtain ⟨front, c, rfl⟩ := (List.eq_nil_or_concat text).resolve_left something
  rw [List.concat_eq_append] at last start ⊢
  have kept : drops c = false := last c List.getLast?_concat
  rw [trimBy, start, List.append_assoc, List.singleton_append, trimEndBy_append_cons kept, List.append_assoc,
    List.singleton_append]

/-! ## White space -/

/-- A text of nothing but white space. -/
def Blank (text : List Char) : Prop := ∀ c ∈ text, isBlank c = true

instance (text : List Char) : Decidable (Blank text) :=
  List.decidableBAll (fun c => isBlank c = true) text

/-- An indent is white space. -/
theorem isBlank_of_isIndent {c : Char} (indent : isIndent c = true) : isBlank c = true := by
  simp only [isIndent, Bool.or_eq_true, beq_iff_eq] at indent
  rcases indent with rfl | rfl <;> decide

/-- Nothing but white space stands in white space. -/
theorem Blank.not_mem {blanks : List Char} (blank : Blank blanks) {c : Char} (solid : isBlank c = false) :
    c ∉ blanks := by
  intro member
  rw [blank c member] at solid
  cases solid

/-- What is left by skipping white space stands behind it. -/
theorem exists_skipBlanks (text : List Char) : ∃ blanks, Blank blanks ∧ text = blanks ++ skipBlanks text :=
  ⟨text.takeWhile isBlank, fun _ member => List.all_eq_true.mp List.all_takeWhile _ member,
    List.takeWhile_append_dropWhile.symm⟩

/-- Skipping white space leads to another character exactly when nothing but white space stands in
front of it. -/
theorem skipBlanks_eq_cons_iff {c : Char} (solid : isBlank c = false) {text rest : List Char} :
    skipBlanks text = c :: rest ↔ ∃ blanks, Blank blanks ∧ text = blanks ++ c :: rest := by
  constructor
  · intro skipped
    refine ⟨text.takeWhile isBlank, fun d member => ?_, ?_⟩
    · exact List.all_eq_true.mp List.all_takeWhile d member
    · rw [← skipped, skipBlanks, List.takeWhile_append_dropWhile]
  · rintro ⟨blanks, blank, rfl⟩
    rw [skipBlanks, List.dropWhile_append_of_pos blank,
      List.dropWhile_cons_of_neg (Bool.not_eq_true _ ▸ solid)]

/-- Words hold no white space. -/
theorem isBlank_of_mem_words {text word : List Char} (member : word ∈ words text) {c : Char}
    (inside : c ∈ word) : isBlank c = false := by
  -- The word that is being collected holds none, so no word that is cut off does.
  have general : ∀ text start, (∀ d ∈ start, isBlank d = false) →
      ∀ word ∈ words.go text start, ∀ d ∈ word, isBlank d = false := by
    intro text start solid
    have reversed : ∀ d ∈ start.reverse, isBlank d = false := fun d known => solid d (List.mem_reverse.mp known)
    induction text generalizing start with
    | nil =>
      cases start with
      | nil => exact List.forall_mem_nil _
      | cons e start => exact List.forall_mem_singleton.mpr reversed
    | cons e text ih =>
      have anew := ih [] (List.forall_mem_nil _) (List.forall_mem_nil _)
      cases blank : isBlank e with
      | true =>
        cases start with
        | nil => simpa [words.go, blank] using anew
        | cons f start => simpa [words.go, blank] using ⟨by simpa using reversed, anew⟩
      | false =>
        have longer : ∀ d ∈ e :: start, isBlank d = false := List.forall_mem_cons.mpr ⟨blank, solid⟩
        have rest := ih (e :: start) longer fun d known => longer d (List.mem_reverse.mp known)
        rwa [words.go, if_neg (by simp [blank])]
  exact general text [] (List.forall_mem_nil _) word member c inside

/-! ## Words -/

/-- The words of a text are those on the two sides of any of its blanks. -/
theorem words_append_cons {c : Char} (blank : isBlank c = true) (left right : List Char) :
    words (left ++ c :: right) = words left ++ words right := by
  -- The word that is being collected ends at the blank at the latest.
  have general (start : List Char) : words.go (left ++ c :: right) start = words.go left start ++ words right := by
    induction left generalizing start with
    | nil => cases start <;> simp [words.go, blank, words]
    | cons d left ih =>
      rw [List.cons_append, words.go, words.go]
      split
      · split
        · exact ih []
        · rw [ih [], List.cons_append]
      · exact ih (d :: start)
  exact general []

/-- White space in front of a text adds no words. -/
theorem Blank.words_append {blanks : List Char} (blank : Blank blanks) (text : List Char) :
    words (blanks ++ text) = words text := by
  induction blanks with
  | nil => rfl
  | cons c blanks ih =>
    obtain ⟨isFirst, others⟩ := List.forall_mem_cons.mp blank
    have apart := words_append_cons isFirst [] (blanks ++ text)
    rw [List.nil_append, ih others] at apart
    exact apart

/-- White space has no words. -/
theorem Blank.words_eq_nil {blanks : List Char} (blank : Blank blanks) : words blanks = [] := by
  have apart := blank.words_append []
  rwa [List.append_nil] at apart

/-- White space behind a text adds no words. -/
theorem Blank.append_words {blanks : List Char} (blank : Blank blanks) (text : List Char) :
    words (text ++ blanks) = words text := by
  cases blanks with
  | nil => rw [List.append_nil]
  | cons c blanks =>
    obtain ⟨isFirst, others⟩ := List.forall_mem_cons.mp blank
    rw [words_append_cons isFirst, Blank.words_eq_nil others, List.append_nil]

/-- A text without white space is one word. -/
theorem words_of_solid {word : List Char} (something : word ≠ []) (solid : ∀ c ∈ word, isBlank c = false) :
    words word = [word] := by
  have general (start : List Char) (some : start ≠ [] ∨ word ≠ []) :
      words.go word start = [start.reverse ++ word] := by
    clear something
    induction word generalizing start with
    | nil =>
      obtain ⟨c, others, rfl⟩ := List.exists_cons_of_ne_nil (some.resolve_right fun absent => absent rfl)
      rw [words.go, List.append_nil]
      exact fun empty => List.cons_ne_nil c others empty
    | cons c word ih =>
      obtain ⟨isFirst, others⟩ := List.forall_mem_cons.mp solid
      rw [words.go, if_neg (by simp [isFirst]), ih others (c :: start) (.inl (List.cons_ne_nil _ _)),
        List.reverse_cons, List.append_assoc, List.singleton_append]
  exact general [] (.inr something)

end Marginalia.Text

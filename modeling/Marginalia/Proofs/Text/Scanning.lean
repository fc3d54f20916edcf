import Marginalia.Text.Scan

/-! # Scanned texts
What a scan does at the front of a text: it goes on after the construct that is read there, or after
one character. A recogniser that reads its constructs from the front of a text
(`Recogniser.ReadsFront`) finds each construct where it was written, so what is true of everything
that it reads is true of every construct among the pieces. -/

namespace Marginalia.Text

/-! ## Pieces of other texts -/

/-- Two ways to cut a text in two: the second cut lies behind the first text, or some of that text stands
behind the cut. -/
theorem parts_of_append {first old front rest : List Char} (parts : first ++ old = front ++ rest) :
    (∃ later, front = first ++ later ∧ old = later ++ rest) ∨
      ∃ others, others ≠ [] ∧ others <:+ first ∧ rest = others ++ old := by
  rcases List.append_eq_append_iff.mp parts with behind | ⟨others, shorter, same⟩
  · exact .inl behind
  · by_cases nothing : others = []
    · refine .inl ⟨[], ?_, ?_⟩
      · rw [shorter, nothing, List.append_nil, List.append_nil]
      · rw [same, nothing, List.nil_append, List.nil_append]
    · exact .inr ⟨others, nothing, ⟨front, shorter.symm⟩, same⟩

/-- A text without a certain character, found in front of a text that holds one, ends before it. -/
theorem prefix_of_prefix_append_cons {c : Char} {text left right : List Char} (absent : c ∉ text)
    (front : text <+: left ++ c :: right) : text <+: left := by
  obtain ⟨after, parts⟩ := front
  rcases List.append_eq_append_iff.mp parts with ⟨others, longer, -⟩ | ⟨others, shorter, rest⟩
  · exact ⟨others, longer.symm⟩
  · cases others with
    | nil => exact ⟨[], by rw [shorter, List.append_nil, List.append_nil]⟩
    | cons first others =>
      obtain ⟨rfl, -⟩ := List.cons.inj rest
      exact absurd (by simp [shorter]) absent

/-- Two cuts of a text, each in front of a character that the other part lacks, are the same. -/
theorem eq_of_append_cons {c d : Char} {front left after right : List Char} (absent : d ∉ front)
    (other : c ∉ left) (parts : front ++ c :: after = left ++ d :: right) : front = left := by
  have shorter : front <+: left := prefix_of_prefix_append_cons absent ⟨c :: after, parts⟩
  have longer : left <+: front := prefix_of_prefix_append_cons other ⟨d :: right, parts.symm⟩
  exact shorter.eq_of_length_le longer.length_le

/-- A text without a certain character, found around one, ends before it or starts after it. -/
theorem parts_of_append_cons {c : Char} {text front after left right : List Char} (absent : c ∉ text)
    (parts : left ++ c :: right = front ++ (text ++ after)) :
    (∃ others, left = front ++ (text ++ others)) ∨
      ∃ others, front = left ++ c :: others ∧ right = others ++ (text ++ after) := by
  rcases List.append_eq_append_iff.mp parts with ⟨others, longer, rest⟩ | ⟨others, longer, rest⟩
  · cases others with
    | nil =>
      have empty : text <+: [] := prefix_of_prefix_append_cons absent ⟨after, rest.symm⟩
      exact .inl ⟨[], by rw [longer, List.prefix_nil.mp empty]; simp⟩
    | cons first others =>
      obtain ⟨rfl, later⟩ := List.cons.inj rest
      exact .inr ⟨others, longer, later⟩
  · obtain ⟨behind, rfl⟩ := prefix_of_prefix_append_cons absent ⟨after, rest⟩
    exact .inl ⟨behind, longer⟩

/-- A text without a certain character, found around one, stands before it or after it. -/
theorem infix_of_infix_append_cons {c : Char} {text left right : List Char} (absent : c ∉ text)
    (inside : text <:+: left ++ c :: right) : text <:+: left ∨ text <:+: right := by
  obtain ⟨front, after, parts⟩ := inside
  rw [List.append_assoc] at parts
  rcases parts_of_append_cons absent parts.symm with ⟨others, same⟩ | ⟨others, -, same⟩
  · exact .inl ⟨front, others, by rw [same, List.append_assoc]⟩
  · exact .inr ⟨others, after, by rw [same, List.append_assoc]⟩

/-- An end of a text starts up to one of its characters, or it lies behind that character. -/
theorem suffix_append_cons {c : Char} {rest left right : List Char}
    (ends : rest <:+ left ++ c :: right) :
    (∃ part, part <:+ left ∧ rest = part ++ c :: right) ∨ rest <:+ right := by
  induction left with
  | nil =>
    rcases List.suffix_cons_iff.mp ends with rfl | later
    · exact .inl ⟨[], List.suffix_refl _, rfl⟩
    · exact .inr later
  | cons d left ih =>
    rcases List.suffix_cons_iff.mp ends with rfl | later
    · exact .inl ⟨d :: left, List.suffix_refl _, rfl⟩
    · rcases ih later with ⟨part, inside, parts⟩ | behind
      · exact .inl ⟨part, inside.trans (List.suffix_cons d left), parts⟩
      · exact .inr behind

/-- A span ends at the first character of another class. -/
theorem spanOf_append_cons {inside : Char → Bool} {text : List Char} (all : ∀ c ∈ text, inside c = true)
    {c : Char} (stop : inside c = false) (rest : List Char) :
    spanOf inside (text ++ c :: rest) = (text, c :: rest) := by
  have other : ¬ inside c = true := Bool.not_eq_true _ ▸ stop
  rw [spanOf, List.takeWhile_append_of_pos all, List.dropWhile_append_of_pos all,
    List.takeWhile_cons_of_neg other, List.dropWhile_cons_of_neg other, List.append_nil]

/-! ## Joined texts -/

/-- Joined texts are made of their characters and those between them. -/
theorem mem_intercalate {between : List Char} {texts : List (List Char)} {c : Char}
    (member : c ∈ between.intercalate texts) : c ∈ between ∨ ∃ text ∈ texts, c ∈ text := by
  induction texts with
  | nil => cases member
  | cons text texts ih =>
    by_cases others : texts = []
    · rw [others, List.intercalate_singleton] at member
      exact .inr ⟨text, List.mem_cons_self, member⟩
    · rw [List.intercalate_cons_of_ne_nil others, List.mem_append, List.mem_append] at member
      rcases member with (inText | inBetween) | later
      · exact .inr ⟨text, List.mem_cons_self, inText⟩
      · exact .inl inBetween
      · refine (ih later).imp_right ?_
        rintro ⟨other, known, inside⟩
        exact ⟨other, List.mem_cons_of_mem text known, inside⟩

/-- A character is in no joined text if neither the texts nor what stands between them holds it. -/
theorem not_mem_intercalate {between : List Char} {c : Char} (absent : c ∉ between) {texts : List (List Char)}
    (others : ∀ text ∈ texts, c ∉ text) : c ∉ between.intercalate texts := by
  intro member
  rcases mem_intercalate member with inBetween | ⟨text, known, inside⟩
  · exact absent inBetween
  · exact others text known inside

/-- Joining texts loses no character of theirs. -/
theorem mem_intercalate_of_mem {between : List Char} {texts : List (List Char)} {text : List Char}
    (known : text ∈ texts) {c : Char} (inside : c ∈ text) : c ∈ between.intercalate texts := by
  induction texts with
  | nil => cases known
  | cons first texts ih =>
    by_cases others : texts = []
    · subst others
      obtain rfl := List.mem_singleton.mp known
      rwa [List.intercalate_singleton]
    · rw [List.intercalate_cons_of_ne_nil others, List.mem_append, List.mem_append]
      rcases List.mem_cons.mp known with rfl | later
      · exact .inl (.inl inside)
      · exact .inr (ih later)

variable {α : Type}

/-! ## Scanning at the front -/

/-- Where nothing is read, one character is a piece of its own. -/
theorem scan_cons_of_none {recognise : Recogniser α} {before : Option Char} {c : Char} {rest : List Char}
    (nothing : recognise before (c :: rest) = none) :
    scan recognise before (c :: rest) = .char c :: scan recognise (some c) rest := by
  rw [scan, nothing]

/-- Where a construct is read, it is a piece, and the scan goes on after it. -/
theorem scan_append_of_some {recognise : Recogniser α} {before : Option Char}
    {written after : List Char} {value : α} (something : written ≠ [])
    (read : recognise before (written ++ after) = some (value, after)) :
    scan recognise before (written ++ after) =
      .construct written value :: scan recognise written.getLast? after := by
  cases written with
  | nil => exact absurd rfl something
  | cons c others =>
    have shorter : after.length ≤ (others ++ after).length := by simp
    have taken : (others ++ after).length - after.length = others.length := by simp
    rw [List.cons_append] at read ⊢
    rw [scan, read]
    simp only [if_pos shorter, taken, List.take_left, List.drop_left, List.getLast?_cons,
      List.getLastD_eq_getLast?]

/-- A recogniser that takes no notice of the character before a text cuts it alike after every one.
-/
theorem scan_before {recognise : Recogniser α}
    (blind : ∀ before text, recognise before text = recognise none text) (before : Option Char)
    (text : List Char) : scan recognise before text = scan recognise none text := by
  cases text with
  | nil => rw [scan_nil, scan_nil]
  | cons c rest => rw [scan, scan, blind before]

/-- Where nothing is read at any place, every character stands alone. -/
theorem scan_of_silent {recognise : Recogniser α} {before : Option Char} {text : List Char}
    (silent : ∀ front rest, text = front ++ rest → recognise (front.getLast?.or before) rest = none) :
    scan recognise before text = text.map .char := by
  induction text generalizing before with
  | nil => exact scan_nil recognise before
  | cons c rest ih =>
    have nothing : recognise before (c :: rest) = none := silent [] (c :: rest) rfl
    rw [scan_cons_of_none nothing, List.map_cons, ih]
    intro front after parts
    have later := silent (c :: front) after (congrArg (c :: ·) parts)
    rwa [List.getLast?_cons, Option.some_or, ← Option.or_some] at later

/-! ## Replacing -/

/-- The text shown for a piece: a construct as rendered, any other character as it is. -/
def Piece.shown (render : List Char → α → List Char) : Piece α → List Char
  | .char c => [c]
  | .construct written value => render written value

@[simp] theorem Piece.shown_char (render : List Char → α → List Char) (c : Char) :
    (Piece.char c).shown render = [c] := rfl

@[simp] theorem Piece.shown_construct (render : List Char → α → List Char) (written : List Char)
    (value : α) : (Piece.construct written value).shown render = render written value := rfl

/-- A replaced text is what is shown for its pieces. -/
theorem replace_eq_flatMap (recognise : Recogniser α) (render : List Char → α → List Char)
    (text : List Char) :
    replace recognise render text = (scan recognise none text).flatMap (Piece.shown render) :=
  rfl

/-- Where nothing is read at any place, nothing is replaced. -/
theorem replace_of_silent {recognise : Recogniser α} (render : List Char → α → List Char)
    {text : List Char}
    (silent : ∀ front rest, text = front ++ rest → recognise front.getLast? rest = none) :
    replace recognise render text = text := by
  have alone : scan recognise none text = text.map .char :=
    scan_of_silent fun front rest parts => by rw [Option.or_none]; exact silent front rest parts
  rw [replace_eq_flatMap, alone, List.flatMap_map]
  simp

/-- A character shown for some pieces stands in their text or in a replacement. -/
theorem mem_shown {render : List Char → α → List Char} {pieces : List (Piece α)} {c : Char}
    (member : c ∈ pieces.flatMap (Piece.shown render)) :
    c ∈ pieces.flatMap Piece.text ∨
      ∃ written value, .construct written value ∈ pieces ∧ c ∈ render written value := by
  obtain ⟨piece, found, inside⟩ := List.mem_flatMap.mp member
  cases piece with
  | char d => exact .inl (List.mem_flatMap.mpr ⟨.char d, found, inside⟩)
  | construct written value => exact .inr ⟨written, value, found, inside⟩

/-- The last character shown for some pieces is the last of their text, or it ends a replacement. -/
theorem getLast?_shown {render : List Char → α → List Char} {pieces : List (Piece α)} {c : Char}
    (something : ∀ written value, .construct written value ∈ pieces → render written value ≠ [])
    (last : (pieces.flatMap (Piece.shown render)).getLast? = some c) :
    (pieces.flatMap Piece.text).getLast? = some c ∨
      ∃ written value, .construct written value ∈ pieces ∧ (render written value).getLast? = some c := by
  rcases List.eq_nil_or_concat pieces with rfl | ⟨front, piece, rfl⟩
  · cases last
  · rw [List.concat_eq_append, List.flatMap_append, List.flatMap_singleton] at last ⊢
    cases piece with
    | char d =>
      rw [Piece.shown_char, List.getLast?_append] at last
      rw [Piece.text_char, List.getLast?_append]
      exact .inl last
    | construct written value =>
      have member : .construct written value ∈ front ++ [.construct written value] := by simp
      rw [Piece.shown_construct, List.getLast?_append] at last
      cases rendered : (render written value).getLast? with
      | none => exact absurd (List.getLast?_eq_none_iff.mp rendered) (something written value (by simp))
      | some d =>
        rw [rendered, Option.some_or] at last
        exact .inr ⟨written, value, member, rendered.trans last⟩

/-- Replacing invents no text: when each replacement stands between two characters that a text lacks
and does not hold that text between them, the text is found after replacing only where it was
before. -/
theorem infix_of_infix_shown {render : List Char → α → List Char} {text : List Char}
    {pieces : List (Piece α)}
    (guarded : ∀ written value, .construct written value ∈ pieces → ∃ first middle last,
      render written value = first :: (middle ++ [last]) ∧ first ∉ text ∧ last ∉ text ∧
        ¬ text <:+: middle)
    (before : List Char) (inside : text <:+: before ++ pieces.flatMap (Piece.shown render)) :
    text <:+: before ++ pieces.flatMap Piece.text := by
  -- The text may start in the characters already passed, so they are carried along.
  induction pieces generalizing before with
  | nil => exact inside
  | cons piece pieces ih =>
    have others := ih fun written value member => guarded written value (List.mem_cons_of_mem _ member)
    rw [List.flatMap_cons] at inside ⊢
    cases piece with
    | char c =>
      rw [Piece.shown_char, ← List.append_assoc] at inside
      rw [Piece.text_char, ← List.append_assoc]
      exact others (before ++ [c]) inside
    | construct written value =>
      obtain ⟨first, middle, last, rendered, noFirst, noLast, noMiddle⟩ :=
        guarded written value List.mem_cons_self
      rw [Piece.shown_construct, rendered, List.cons_append, List.append_assoc] at inside
      rcases infix_of_infix_append_cons noFirst inside with left | inside
      · exact List.infix_append_of_infix_left left
      · rcases infix_of_infix_append_cons noLast inside with inMiddle | right
        · exact absurd inMiddle noMiddle
        · exact List.infix_append_of_infix_right (List.infix_append_of_infix_right (others [] right))

/-! ## What is read -/

/-- Reads constructs of at least one character from the front of a text. -/
def Recogniser.ReadsFront (recognise : Recogniser α) : Prop :=
  ∀ before text value after, recognise before text = some (value, after) →
    ∃ written, written ≠ [] ∧ text = written ++ after

/-- **Induction along a scan.** A property of texts, each with the character before it, that holds
of the empty text and is handed on by every character at which nothing is read and by every
construct that is read, holds of all texts. -/
@[elab_as_elim]
theorem Recogniser.ReadsFront.induction {recognise : Recogniser α} (front : recognise.ReadsFront)
    {motive : Option Char → List Char → Prop} (nil : ∀ before, motive before [])
    (char : ∀ before c rest, recognise before (c :: rest) = none → motive (some c) rest →
      motive before (c :: rest))
    (construct : ∀ before written value after, written ≠ [] →
      recognise before (written ++ after) = some (value, after) → motive written.getLast? after →
      motive before (written ++ after))
    (before : Option Char) (text : List Char) : motive before text :=
  match text with
  | [] => nil before
  | c :: rest =>
    match read : recognise before (c :: rest) with
    | none => char before c rest read (front.induction nil char construct (some c) rest)
    | some (value, after) => by
      obtain ⟨written, something, parts⟩ := front before (c :: rest) value after read
      have shorter : after.length < (c :: rest).length := by
        have some := List.length_pos_iff.mpr something
        rw [parts, List.length_append]
        omega
      rw [parts] at read ⊢
      exact construct before written value after something read
        (front.induction nil char construct written.getLast? after)
termination_by text.length
decreasing_by
  · exact Nat.lt_succ_self rest.length
  · exact shorter

/-- Every construct among the pieces of a text was read where it stands. -/
theorem read_of_mem_scan {recognise : Recogniser α} (front : recognise.ReadsFront)
    {written : List Char} {value : α} {before : Option Char} {text : List Char}
    (member : .construct written value ∈ scan recognise before text) :
    ∃ previous after, recognise previous (written ++ after) = some (value, after) := by
  induction before, text using front.induction with
  | nil before => simp at member
  | char before c rest nothing ih =>
    rw [scan_cons_of_none nothing, List.mem_cons] at member
    rcases member with same | later
    · cases same
    · exact ih later
  | construct before found reading after something read ih =>
    rw [scan_append_of_some something read, List.mem_cons] at member
    rcases member with same | later
    · cases same
      exact ⟨before, after, read⟩
    · exact ih later

end Marginalia.Text

import Marginalia.Text.Line

/-! # Cutting into physical lines
A text and its physical lines with the breaks between them determine each other. What can come out
of the cut is an inductive predicate (`Cut`): no line holds a line feed, and a line in front of a
lone line feed does not end in a carriage return, because that would belong to the break. A text whose
breaks are replaced by spaces holds none, so it stays when they are replaced again. -/

namespace Marginalia.Text

/-- Lines and the breaks between them, as a text is cut into them. -/
inductive Cut : List (List Char) → List (List Char) → Prop where
  /-- The last line, with no break after it. -/
  | last {line : List Char} (whole : '\n' ∉ line) : Cut [line] []
  /-- A line in front of a lone line feed. -/
  | feed {line : List Char} {lines endings : List (List Char)} (whole : '\n' ∉ line)
      (plain : line.getLast? ≠ some '\r') (rest : Cut lines endings) :
      Cut (line :: lines) (['\n'] :: endings)
  /-- A line in front of a carriage return and a line feed. -/
  | both {line : List Char} {lines endings : List (List Char)} (whole : '\n' ∉ line)
      (rest : Cut lines endings) : Cut (line :: lines) (['\r', '\n'] :: endings)

/-! ## One line -/

/-- A character that starts no break is put in front of the first line. -/
theorem splitLines_cons_of_ne {c : Char} {rest : List Char} (feed : c ≠ '\n')
    (both : c = '\r' → rest.head? ≠ some '\n') :
    splitLines (c :: rest) = (consHead c (splitLines rest).1, (splitLines rest).2) := by
  apply splitLines.eq_4
  · intro isFeed
    exact feed isFeed
  · rintro after rfl rfl
    exact both rfl rfl

/-- A text without line feeds in front of another belongs to its first line, unless a break starts
in it. -/
theorem splitLines_append {front text first : List Char} {others : List (List Char)}
    (whole : '\n' ∉ front) (plain : front.getLast? = some '\r' → text.head? ≠ some '\n')
    (lines : (splitLines text).1 = first :: others) :
    splitLines (front ++ text) = ((front ++ first) :: others, (splitLines text).2) := by
  induction front with
  | nil =>
    rw [List.nil_append, List.nil_append, ← lines]
  | cons c front ih =>
    rw [List.mem_cons, not_or] at whole
    -- Only at the end of the front could a carriage return meet a line feed.
    have starts : c = '\r' → (front ++ text).head? ≠ some '\n' := by
      rintro rfl
      cases front with
      | nil => exact plain rfl
      | cons next front =>
        intro isFeed
        exact whole.2 (List.mem_cons.mpr (.inl (Option.some.inj isFeed).symm))
    have plainFront : front.getLast? = some '\r' → text.head? ≠ some '\n' := by
      cases front with
      | nil => simp
      | cons next front => rwa [List.getLast?_cons_cons] at plain
    rw [List.cons_append, splitLines_cons_of_ne (Ne.symm whole.1) starts, ih whole.2 plainFront]
    rfl

/-- A text without line feeds is one line. -/
theorem splitLines_of_not_mem {line : List Char} (whole : '\n' ∉ line) :
    splitLines line = ([line], []) := by
  have alone := splitLines_append whole (fun _ => by simp) (congrArg Prod.fst splitLines_nil)
  rwa [List.append_nil, splitLines_nil] at alone

/-- The first line of a text ends at the first line feed, if there is no carriage return before it.
-/
theorem splitLines_append_feed {line : List Char} (whole : '\n' ∉ line)
    (plain : line.getLast? ≠ some '\r') (rest : List Char) :
    splitLines (line ++ '\n' :: rest) = (line :: (splitLines rest).1, ['\n'] :: (splitLines rest).2) := by
  have first : (splitLines ('\n' :: rest)).1 = [] :: (splitLines rest).1 := rfl
  rw [splitLines_append whole (fun isReturn => absurd isReturn plain) first, List.append_nil]
  rfl

/-- The first line of a text ends at the carriage return in front of the first line feed. -/
theorem splitLines_append_both {line : List Char} (whole : '\n' ∉ line) (rest : List Char) :
    splitLines (line ++ '\r' :: '\n' :: rest) =
      (line :: (splitLines rest).1, ['\r', '\n'] :: (splitLines rest).2) := by
  have first : (splitLines ('\r' :: '\n' :: rest)).1 = [] :: (splitLines rest).1 := rfl
  rw [splitLines_append whole (fun _ => by simp) first, List.append_nil]
  rfl

/-! ## All lines -/

/-- There is always a first line. -/
theorem Cut.ne_nil {lines endings : List (List Char)} (cut : Cut lines endings) : lines ≠ [] := by
  cases cut with
  | last | feed | both => exact List.cons_ne_nil _ _

/-- No line holds a line feed. -/
theorem Cut.whole {lines endings : List (List Char)} (cut : Cut lines endings) :
    ∀ line ∈ lines, '\n' ∉ line := by
  induction cut with
  | last whole => simpa using whole
  | feed whole _ _ ih | both whole _ ih => exact List.forall_mem_cons.mpr ⟨whole, ih⟩

/-- A cut text without the first character of its first line. -/
theorem Cut.tail {c : Char} {line : List Char} {lines endings : List (List Char)}
    (cut : Cut ((c :: line) :: lines) endings) : Cut (line :: lines) endings := by
  cases cut with
  | last whole => exact .last (not_or.mp (mt List.mem_cons.mpr whole)).2
  | both whole rest => exact .both (not_or.mp (mt List.mem_cons.mpr whole)).2 rest
  | feed whole plain rest =>
    refine .feed (not_or.mp (mt List.mem_cons.mpr whole)).2 ?_ rest
    cases line with
    | nil => simp
    | cons next others => rwa [List.getLast?_cons_cons] at plain

/-- A cut text from some place in its first line on. -/
theorem Cut.suffix {line rest : List Char} {lines endings : List (List Char)}
    (cut : Cut (line :: lines) endings) (suffix : rest <:+ line) : Cut (rest :: lines) endings := by
  induction line with
  | nil => rwa [List.suffix_nil.mp suffix]
  | cons c line ih =>
    rcases List.suffix_cons_iff.mp suffix with rfl | later
    · exact cut
    · exact ih cut.tail later

/-- The first character of a line starts no break. -/
theorem Cut.head {c : Char} {line : List Char} {lines endings : List (List Char)}
    (cut : Cut ((c :: line) :: lines) endings) :
    c ≠ '\n' ∧ (c = '\r' → (joinLines (line :: lines) endings).head? ≠ some '\n') := by
  have whole : '\n' ∉ c :: line := cut.whole _ List.mem_cons_self
  rw [List.mem_cons, not_or] at whole
  refine ⟨Ne.symm whole.1, fun isReturn => ?_⟩
  cases line with
  | nil =>
    cases cut with
    | last | both => simp [joinLines]
    | feed _ plain => exact absurd (congrArg some isReturn) plain
  | cons next others =>
    intro isFeed
    have first : (joinLines ((next :: others) :: lines) endings).head? = some next := by
      cases endings <;> rfl
    exact whole.2 (List.mem_cons.mpr (.inl (Option.some.inj (first.symm.trans isFeed)).symm))

/-- A character in front of a cut text belongs to its first line, unless it starts a break. -/
theorem Cut.consHead {c : Char} {lines endings : List (List Char)} (cut : Cut lines endings)
    (feed : c ≠ '\n') (both : c = '\r' → lines.head? = some [] → endings.head? ≠ some ['\n']) :
    Cut (consHead c lines) endings := by
  cases cut with
  | last whole => exact .last (by simp [whole, Ne.symm feed])
  | @both line lines endings whole rest => exact .both (by simp [whole, Ne.symm feed]) rest
  | @feed line lines endings whole plain rest =>
    refine .feed (by simp [whole, Ne.symm feed]) ?_ rest
    cases line with
    | nil =>
      intro last
      exact both (Option.some.inj last) rfl rfl
    | cons next others => rwa [List.getLast?_cons_cons]

/-- A character in front of the first line is in front of the joined text. -/
theorem joinLines_consHead (c : Char) {lines : List (List Char)} (some : lines ≠ [])
    (endings : List (List Char)) :
    joinLines (Text.consHead c lines) endings = c :: joinLines lines endings := by
  cases lines with
  | nil => exact absurd rfl some
  | cons line lines => cases endings <;> rfl

/-- A text is cut into at least one line. -/
theorem splitLines_ne_nil (text : List Char) : (splitLines text).1 ≠ [] := by
  fun_induction splitLines text with
  | case1 | case2 | case3 => exact List.cons_ne_nil _ _
  | case4 c rest _ _ ih =>
    cases lines : (splitLines rest).1 with
    | nil => exact absurd lines ih
    | cons line others => exact List.cons_ne_nil _ _

/-- The lines and breaks that a text is cut into, put together, are the text. -/
theorem joinLines_splitLines (text : List Char) :
    joinLines (splitLines text).1 (splitLines text).2 = text := by
  fun_induction splitLines text with
  | case1 => rfl
  | case2 rest ih | case3 rest ih => rw [joinLines, ih]; rfl
  | case4 c rest _ _ ih => rw [joinLines_consHead c (splitLines_ne_nil rest), ih]

/-- The lines and breaks that a text is cut into. -/
theorem cut_splitLines (text : List Char) : Cut (splitLines text).1 (splitLines text).2 := by
  fun_induction splitLines text with
  | case1 => exact .last (by simp)
  | case2 rest ih => exact .feed (by simp) (by simp) ih
  | case3 rest ih => exact .both (by simp) ih
  | case4 c rest feed both ih =>
    refine ih.consHead (fun isFeed => feed isFeed) ?_
    intro isReturn emptyLine loneFeed
    -- Only a text that starts with a line feed has an empty line and a lone line feed first.
    obtain ⟨lines, first⟩ := List.head?_eq_some_iff.mp emptyLine
    obtain ⟨endings, second⟩ := List.head?_eq_some_iff.mp loneFeed
    have joined := joinLines_splitLines rest
    rw [first, second] at joined
    exact both (joinLines lines endings) isReturn joined.symm

/-- A break behind a text ends its last line: the lines of the text come first, and then those behind the
break. -/
theorem physicalLines_append {text behind : List Char} {others : List (List Char)}
    (apart : text.getLast? = some '\r' → behind.head? ≠ some '\n')
    (breaks : physicalLines behind = [] :: others) :
    physicalLines (text ++ behind) = physicalLines text ++ others := by
  simp only [physicalLines] at breaks ⊢
  fun_induction splitLines text with
  | case1 => exact breaks
  | case2 rest ih =>
    have later : rest.getLast? = some '\r' → behind.head? ≠ some '\n' := by
      intro last
      refine apart ?_
      rw [List.getLast?_cons, last, Option.getD_some]
    exact congrArg ([] :: ·) (ih later)
  | case3 rest ih =>
    have later : rest.getLast? = some '\r' → behind.head? ≠ some '\n' := by
      intro last
      refine apart ?_
      rw [List.getLast?_cons, List.getLast?_cons, last, Option.getD_some, Option.getD_some]
    exact congrArg ([] :: ·) (ih later)
  | case4 c rest feed both ih =>
    have later : rest.getLast? = some '\r' → behind.head? ≠ some '\n' := by
      intro last
      refine apart ?_
      rw [List.getLast?_cons, last, Option.getD_some]
    -- The character starts no break with what comes behind it, in the text or after its end.
    have starts : c = '\r' → (rest ++ behind).head? ≠ some '\n' := by
      rintro rfl
      cases rest with
      | nil => exact apart rfl
      | cons next others =>
        intro isFeed
        exact both others rfl (congrArg (· :: others) (Option.some.inj isFeed))
    rw [List.cons_append, splitLines_cons_of_ne (fun isFeed => feed isFeed) starts, ih later]
    obtain ⟨first, lines, parts⟩ := List.exists_cons_of_ne_nil (splitLines_ne_nil rest)
    rw [parts]
    rfl

/-- Lines and breaks that may come out of the cut are those that their text is cut into. -/
theorem splitLines_joinLines {lines endings : List (List Char)} (cut : Cut lines endings) :
    splitLines (joinLines lines endings) = (lines, endings) := by
  induction cut with
  | @last line whole =>
    rw [joinLines, joinLines_nil, List.append_nil]
    exact splitLines_of_not_mem whole
  | feed whole plain rest ih =>
    rw [joinLines, List.singleton_append, splitLines_append_feed whole plain, ih]
  | both whole rest ih =>
    rw [joinLines, List.cons_append, List.singleton_append, splitLines_append_both whole, ih]

/-- Each line is a part of the joined text. -/
theorem infix_joinLines {line : List Char} {lines : List (List Char)} (member : line ∈ lines)
    (endings : List (List Char)) : line <:+: joinLines lines endings := by
  induction lines generalizing endings with
  | nil => cases member
  | cons first others ih =>
    rcases List.mem_cons.mp member with rfl | later
    · cases endings with
      | nil => exact List.infix_append_left
      | cons ending endings => exact List.infix_append_left
    · cases endings with
      | nil => exact List.infix_append_of_infix_right (ih later [])
      | cons ending endings =>
        exact List.infix_append_of_infix_right (List.infix_append_of_infix_right (ih later endings))

/-- Each line of a text is a part of it. -/
theorem infix_of_mem_physicalLines {text line : List Char} (member : line ∈ physicalLines text) :
    line <:+: text := by
  have inside : line <:+: joinLines (splitLines text).1 (splitLines text).2 := infix_joinLines member _
  rwa [joinLines_splitLines] at inside

/-! ## Breaks as spaces -/

/-- A character that starts no break stays. -/
theorem oneLine_cons_of_ne {c : Char} {rest : List Char} (feed : c ≠ '\n')
    (both : c = '\r' → rest.head? ≠ some '\n') : oneLine (c :: rest) = c :: oneLine rest := by
  apply oneLine.eq_4
  · intro isFeed
    exact feed isFeed
  · rintro after rfl rfl
    exact both rfl rfl

/-- A text on one line holds no line feed. -/
theorem not_mem_oneLine (text : List Char) : '\n' ∉ oneLine text := by
  fun_induction oneLine text with
  | case1 => simp
  | case2 rest ih | case3 rest ih => simp [ih]
  | case4 c rest feed _ ih =>
    have other : '\n' ≠ c := fun isFeed => feed isFeed.symm
    simp [ih, other]

/-- A text without line feeds is on one line already. -/
theorem oneLine_of_not_mem {line : List Char} (whole : '\n' ∉ line) : oneLine line = line := by
  induction line with
  | nil => rfl
  | cons c rest ih =>
    obtain ⟨feed, wholeRest⟩ := not_or.mp (mt List.mem_cons.mpr whole)
    have noFeed : rest.head? ≠ some '\n' := fun first => wholeRest (List.mem_of_head? first)
    rw [oneLine_cons_of_ne (Ne.symm feed) (fun _ => noFeed), ih wholeRest]

/-- Texts that meet at a character that belongs to no break are put on one line each on its own. -/
theorem oneLine_append_cons {c : Char} (feed : c ≠ '\n') (carriage : c ≠ '\r')
    (first second : List Char) :
    oneLine (first ++ c :: second) = oneLine first ++ c :: oneLine second := by
  have middle : oneLine (c :: second) = c :: oneLine second :=
    oneLine_cons_of_ne feed fun isReturn => absurd isReturn carriage
  fun_induction oneLine first with
  | case1 => exact middle
  | case2 rest ih => exact congrArg (' ' :: ·) ih
  | case3 rest ih => exact congrArg (' ' :: ·) ih
  | case4 d rest noFeed noBoth ih =>
    have both : d = '\r' → (rest ++ c :: second).head? ≠ some '\n' := by
      intro isReturn first
      cases rest with
      | nil => exact feed (Option.some.inj first)
      | cons next others => exact noBoth others isReturn (congrArg (· :: others) (Option.some.inj first))
    rw [List.cons_append, oneLine_cons_of_ne (fun isFeed => noFeed isFeed) both, ih, List.cons_append]

/-! ## Rows -/

/-- A character that ends no row is put in front of the first row. -/
theorem rows_cons {c : Char} (plain : isRowBreak c = false) (rest : List Char) :
    rows (c :: rest) = consHead c (rows rest) := by
  have noReturn : c ≠ '\r' := by
    rintro rfl
    exact absurd plain (by decide)
  rw [rows.eq_3 _ _ fun _ same _ => noReturn same, if_neg (Bool.eq_false_iff.mp plain)]

/-- The first row of a text starts as the text does. -/
theorem exists_rows_cons {c : Char} (plain : isRowBreak c = false) (text : List Char) :
    ∃ row others, rows (c :: text) = (c :: row) :: others := by
  rw [rows_cons plain]
  cases rows text with
  | nil => exact ⟨[], [], rfl⟩
  | cons row others => exact ⟨row, others, rfl⟩

end Marginalia.Text

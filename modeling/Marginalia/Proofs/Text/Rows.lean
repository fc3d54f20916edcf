import Marginalia.Proofs.Text.Lines
import Marginalia.Text.Blank

/-! # Rows and physical lines
Every break of physical lines ends a row, but not the other way round. A text whose physical lines hold none of
the other separators has its physical lines for rows, except for an empty last line, which starts no row
(`Cut.rows_eq`). Where a line holds one, the row with the number of the first such line is only the beginning of
it (`Cut.exists_rows`). -/

namespace Marginalia.Text

/-- A text within which no row ends. -/
def Unbroken (text : List Char) : Prop := ∀ c ∈ text, isRowBreak c = false

instance (text : List Char) : Decidable (Unbroken text) :=
  List.decidableBAll (fun c => isRowBreak c = false) text

/-- A line feed ends a row. -/
theorem Unbroken.not_mem {text : List Char} (unbroken : Unbroken text) : '\n' ∉ text :=
  fun member => absurd (unbroken _ member) (by decide)

/-- A line break is white space. -/
theorem isBlank_of_isRowBreak {c : Char} (breaks : isRowBreak c = true) : isBlank c = true := by
  simp only [isRowBreak, Bool.or_eq_true, Bool.and_eq_true, decide_eq_true_eq, beq_iff_eq] at breaks
  simp only [isBlank, Bool.or_eq_true, Bool.and_eq_true, decide_eq_true_eq, beq_iff_eq]
  omega

/-! ## One row -/

/-- A text within which no row ends, in front of another one, belongs to its first row. -/
theorem rows_append {line : List Char} (unbroken : Unbroken line) {text first : List Char}
    {others : List (List Char)} (starts : rows text = first :: others) :
    rows (line ++ text) = (line ++ first) :: others := by
  induction line with
  | nil => exact starts
  | cons c line ih =>
    obtain ⟨plain, unbrokenLine⟩ := List.forall_mem_cons.mp unbroken
    rw [List.cons_append, rows_cons plain, ih unbrokenLine]
    rfl

/-- A text within which no row ends is one row. -/
theorem rows_of_unbroken {line : List Char} (unbroken : Unbroken line) (something : line ≠ []) :
    rows line = [line] := by
  induction line with
  | nil => exact absurd rfl something
  | cons c line ih =>
    obtain ⟨plain, unbrokenLine⟩ := List.forall_mem_cons.mp unbroken
    rw [rows_cons plain]
    by_cases alone : line = []
    · rw [alone]
      rfl
    · rw [ih unbrokenLine alone]
      rfl

/-- A character that ends a row leaves an empty row in front of it. -/
theorem exists_rows_break {c : Char} (breaks : isRowBreak c = true) (text : List Char) :
    ∃ others, rows (c :: text) = [] :: others := by
  rw [rows.eq_def]
  split
  · next same => cases same
  · next rest same => exact ⟨rows rest, rfl⟩
  · next d rest _ same =>
    obtain ⟨rfl, rfl⟩ := List.cons.inj same
    exact ⟨rows text, if_pos breaks⟩

/-- A row goes up to a line feed. -/
theorem rows_append_feed {line : List Char} (unbroken : Unbroken line) (rest : List Char) :
    rows (line ++ '\n' :: rest) = line :: rows rest := by
  have first : rows ('\n' :: rest) = [] :: rows rest := rfl
  rw [rows_append unbroken first, List.append_nil]

/-- A row goes up to a carriage return in front of a line feed. -/
theorem rows_append_both {line : List Char} (unbroken : Unbroken line) (rest : List Char) :
    rows (line ++ '\r' :: '\n' :: rest) = line :: rows rest := by
  have first : rows ('\r' :: '\n' :: rest) = [] :: rows rest := rfl
  rw [rows_append unbroken first, List.append_nil]

/-- No row ends within a row. -/
theorem unbroken_of_mem_rows {text row : List Char} (member : row ∈ rows text) : Unbroken row := by
  fun_induction rows text generalizing row with
  | case1 => cases member
  | case2 rest ih =>
    rcases List.mem_cons.mp member with rfl | later
    · exact List.forall_mem_nil _
    · exact ih later
  | case3 c rest _ breaks ih =>
    rcases List.mem_cons.mp member with rfl | later
    · exact List.forall_mem_nil _
    · exact ih later
  | case4 c rest _ plain ih =>
    have first : isRowBreak c = false := Bool.not_eq_true _ ▸ plain
    cases others : rows rest with
    | nil =>
      rw [others] at member
      rw [List.mem_singleton.mp member]
      exact List.forall_mem_singleton.mpr first
    | cons next more =>
      rw [others, consHead_cons] at member
      rcases List.mem_cons.mp member with rfl | later
      · exact List.forall_mem_cons.mpr ⟨first, ih (others ▸ List.mem_cons_self)⟩
      · exact ih (others ▸ List.mem_cons_of_mem next later)

/-! ## All rows -/

/-- Lines without the empty one behind the last break. -/
def closedLines (lines : List (List Char)) : List (List Char) :=
  if lines.getLast? = some [] then lines.dropLast else lines

theorem closedLines_of_open {lines : List (List Char)} (isOpen : lines.getLast? = some []) :
    closedLines lines = lines.dropLast := if_pos isOpen

theorem closedLines_of_closed {lines : List (List Char)} (closed : lines.getLast? ≠ some []) :
    closedLines lines = lines := if_neg closed

/-- Lines keep their numbers when an empty one at the end is left out. -/
theorem getElem?_of_closedLines {lines : List (List Char)} {index : Nat} {line : List Char}
    (known : (closedLines lines)[index]? = some line) : lines[index]? = some line := by
  have front : closedLines lines <+: lines := by
    unfold closedLines
    split
    · exact List.dropLast_prefix lines
    · exact List.prefix_refl lines
  obtain ⟨inside, rfl⟩ := List.getElem?_eq_some_iff.mp known
  exact List.prefix_iff_getElem?.mp front index inside

/-- A line in front of others does not end them. -/
theorem closedLines_cons (line : List Char) {lines : List (List Char)} (something : lines ≠ []) :
    closedLines (line :: lines) = line :: closedLines lines := by
  obtain ⟨next, others, rfl⟩ := List.exists_cons_of_ne_nil something
  unfold closedLines
  rw [List.getLast?_cons_cons]
  split
  · rw [List.dropLast_cons_of_ne_nil (List.cons_ne_nil next others)]
  · rfl

/-- **Rows that are lines.** If no row ends within a line, the rows of a text are its lines, without an empty one
at the end. -/
theorem Cut.rows_eq {lines endings : List (List Char)} (cut : Cut lines endings)
    (unbroken : ∀ line ∈ lines, Unbroken line) : rows (joinLines lines endings) = closedLines lines := by
  induction cut with
  | @last line whole =>
    have one : joinLines [line] [] = line := List.append_nil line
    rw [one]
    by_cases empty : line = []
    · rw [empty]
      rfl
    · have closed : closedLines [line] = [line] := if_neg fun isEmpty => empty (Option.some.inj isEmpty)
      rw [closed, rows_of_unbroken (unbroken line List.mem_cons_self) empty]
  | @feed line lines endings whole plain rest ih =>
    obtain ⟨first, others⟩ := List.forall_mem_cons.mp unbroken
    rw [joinLines, List.singleton_append, rows_append_feed first, ih others, closedLines_cons line rest.ne_nil]
  | @both line lines endings whole rest ih =>
    obtain ⟨first, others⟩ := List.forall_mem_cons.mp unbroken
    rw [joinLines, List.cons_append, List.singleton_append, rows_append_both first, ih others,
      closedLines_cons line rest.ne_nil]

/-- Among lines that are not all unbroken there is a first one within which a row ends. -/
theorem exists_first_broken {lines : List (List Char)} (broken : ¬ ∀ line ∈ lines, Unbroken line) :
    ∃ front part c rest after, lines = front ++ (part ++ c :: rest) :: after ∧
      (∀ line ∈ front, Unbroken line) ∧ Unbroken part ∧ isRowBreak c = true := by
  obtain ⟨line, found⟩ : ∃ line, lines.find? (·.any isRowBreak) = some line := by
    refine Option.isSome_iff_exists.mp ?_
    rw [List.find?_isSome]
    simpa [Unbroken] using broken
  obtain ⟨isBroken, front, after, parts, before⟩ := List.find?_eq_some_iff_append.mp found
  obtain ⟨c, first⟩ : ∃ c, line.find? isRowBreak = some c := by
    refine Option.isSome_iff_exists.mp ?_
    rwa [List.find?_isSome, ← List.any_eq_true]
  obtain ⟨breaks, part, rest, inLine, beginning⟩ := List.find?_eq_some_iff_append.mp first
  refine ⟨front, part, c, rest, after, by rw [parts, inLine], fun other member => ?_, fun d member => ?_, breaks⟩
  · simpa [Unbroken] using before other member
  · simpa using beginning d member

/-- **Rows that are parts of lines.** Up to the first line within which a row ends, the rows of a text are its lines;
then comes the beginning of that line. -/
theorem Cut.exists_rows {front after endings : List (List Char)} {part rest : List Char} {c : Char}
    (cut : Cut (front ++ (part ++ c :: rest) :: after) endings) (unbroken : ∀ line ∈ front, Unbroken line)
    (beginning : Unbroken part) (breaks : isRowBreak c = true) :
    ∃ others, rows (joinLines (front ++ (part ++ c :: rest) :: after) endings) = front ++ part :: others := by
  induction front generalizing endings with
  | nil =>
    -- Whatever comes behind the line, its first row is over before that.
    obtain ⟨behind, text⟩ : ∃ behind, joinLines ((part ++ c :: rest) :: after) endings = part ++ c :: behind := by
      cases endings with
      | nil => exact ⟨_, by rw [joinLines, List.append_assoc, List.cons_append]⟩
      | cons ending endings => exact ⟨_, by rw [joinLines, List.append_assoc, List.cons_append]⟩
    obtain ⟨others, first⟩ := exists_rows_break breaks behind
    rw [List.nil_append, text, rows_append beginning first, List.append_nil]
    exact ⟨others, rfl⟩
  | cons line front ih =>
    obtain ⟨first, others⟩ := List.forall_mem_cons.mp unbroken
    rw [List.cons_append] at cut ⊢
    generalize parts : front ++ (part ++ c :: rest) :: after = lines at cut ih ⊢
    cases cut with
    | last => simp at parts
    | feed whole plain later =>
      obtain ⟨behind, known⟩ := ih later others
      rw [joinLines, List.singleton_append, rows_append_feed first, known]
      exact ⟨behind, rfl⟩
    | both whole later =>
      obtain ⟨behind, known⟩ := ih later others
      rw [joinLines, List.cons_append, List.singleton_append, rows_append_both first, known]
      exact ⟨behind, rfl⟩

end Marginalia.Text

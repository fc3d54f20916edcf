import Marginalia.File.Path
import Marginalia.Proofs.Text.Scanning

/-! # Characters of paths
No operation on paths brings in characters: what is read from a text, put together, or taken together with
the names above it is made of the characters that were there (`Path.Lacks`), and of slashes. A path whose names
have none (`Path.Proper`) starts with a slash in its text exactly if it has a root (`Path.Proper.head?_text`). -/

namespace Marginalia.File

open Text

/-! ## Names -/

/-- The parts between slashes are made of the characters of the text. -/
theorem mem_of_mem_splitAtSlash {text part : List Char} (member : part ∈ splitAtSlash text) {c : Char}
    (inside : c ∈ part) : c ∈ text := by
  induction text generalizing part with
  | nil =>
    obtain rfl := List.mem_singleton.mp member
    exact inside
  | cons d text ih =>
    rw [splitAtSlash] at member
    split at member
    · rcases List.mem_cons.mp member with rfl | later
      · cases inside
      · exact List.mem_cons_of_mem d (ih later inside)
    · cases parts : splitAtSlash text with
      | nil =>
        rw [parts] at member
        obtain rfl := List.mem_singleton.mp member
        exact List.mem_singleton.mp inside ▸ List.mem_cons_self
      | cons first others =>
        rw [parts, consHead_cons] at member
        rcases List.mem_cons.mp member with rfl | later
        · rcases List.mem_cons.mp inside with rfl | inside
          · exact List.mem_cons_self
          · exact List.mem_cons_of_mem d (ih (parts ▸ List.mem_cons_self) inside)
        · exact List.mem_cons_of_mem d (ih (parts ▸ List.mem_cons_of_mem first later) inside)

/-- No part between slashes has a slash. -/
theorem not_mem_of_mem_splitAtSlash {text part : List Char} (member : part ∈ splitAtSlash text) : '/' ∉ part := by
  induction text generalizing part with
  | nil =>
    obtain rfl := List.mem_singleton.mp member
    exact List.not_mem_nil
  | cons c text ih =>
    rw [splitAtSlash] at member
    split at member
    · rcases List.mem_cons.mp member with rfl | later
      · exact List.not_mem_nil
      · exact ih later
    · next other =>
      cases parts : splitAtSlash text with
      | nil =>
        rw [parts] at member
        obtain rfl := List.mem_singleton.mp member
        simpa using Ne.symm other
      | cons first others =>
        rw [parts, consHead_cons] at member
        rcases List.mem_cons.mp member with rfl | later
        · rw [List.mem_cons, not_or]
          exact ⟨Ne.symm other, ih (parts ▸ List.mem_cons_self)⟩
        · exact ih (parts ▸ List.mem_cons_of_mem first later)

/-- Taking names together with those above leaves only names that were there. -/
theorem mem_of_mem_collapseAbove {rooted : Bool} {before names : List (List Char)} {name : List Char}
    (member : name ∈ Path.collapseAbove rooted before names) : name ∈ before ∨ name ∈ names := by
  fun_induction Path.collapseAbove rooted before names with
  | case1 before => exact .inl (List.mem_reverse.mp member)
  | case2 names ih =>
    rcases ih member with kept | later
    · split at kept
      · cases kept
      · exact .inr (List.mem_singleton.mp kept ▸ List.mem_cons_self)
    · exact .inr (List.mem_cons_of_mem _ later)
  | case3 names others ih =>
    rcases ih member with kept | later
    · rcases List.mem_cons.mp kept with rfl | kept
      · exact .inr List.mem_cons_self
      · exact .inl kept
    · exact .inr (List.mem_cons_of_mem _ later)
  | case4 names last others other ih =>
    exact (ih member).imp (List.mem_cons_of_mem last) (List.mem_cons_of_mem _)
  | case5 before name names other ih =>
    rcases ih member with kept | later
    · rcases List.mem_cons.mp kept with rfl | kept
      · exact .inr List.mem_cons_self
      · exact .inl kept
    · exact .inr (List.mem_cons_of_mem _ later)

/-! ## Roots -/

/-- A text that does not start with a slash has no root. -/
theorem rootOf_of_ne {text : List Char} (relative : text.head? ≠ some '/') : rootOf text = [] := by
  have noSlash : text.takeWhile (· == '/') = [] := by
    cases text with
    | nil => rfl
    | cons c text => exact List.takeWhile_cons_of_neg (by simpa using relative)
  rw [rootOf, noSlash]

/-- The root of a text that starts with a slash is one slash or two. -/
theorem rootOf_of_eq {text : List Char} (rooted : text.head? = some '/') :
    rootOf text = ['/'] ∨ rootOf text = ['/', '/'] := by
  obtain ⟨others, rfl⟩ := List.head?_eq_some_iff.mp rooted
  rw [rootOf]
  split
  · next nothing => simp at nothing
  · exact .inr rfl
  · exact .inl rfl

namespace Path

/-! ## Paths -/

/-- A path in which a certain character does not stand. -/
structure Lacks (path : Path) (c : Char) : Prop where
  /-- It is not in the root. -/
  root : c ∉ path.root
  /-- It is in none of the names. -/
  names : ∀ name ∈ path.names, c ∉ name

/-- A path is made of the characters of the text that it is read from. -/
theorem lacks_ofText {text : List Char} {c : Char} (absent : c ∉ text) : (ofText text).Lacks c := by
  refine ⟨fun inRoot => absent ?_, fun name member inside => absent ?_⟩
  · have slash : '/' ∈ text ∧ c = '/' := by
      rw [ofText, rootOf] at inRoot
      have start (front : text.takeWhile (· == '/') ≠ []) : '/' ∈ text := by
        obtain ⟨d, others, first⟩ := List.exists_cons_of_ne_nil front
        have member : d ∈ text.takeWhile (· == '/') := by rw [first]; exact List.mem_cons_self
        have slash : d = '/' := by simpa using List.all_eq_true.mp List.all_takeWhile d member
        exact slash ▸ (List.takeWhile_subset _) member
      split at inRoot
      · cases inRoot
      · next front => exact ⟨start (by rw [front]; simp), by simpa using inRoot⟩
      · next some _ => exact ⟨start some, by simpa using inRoot⟩
    exact slash.2 ▸ slash.1
  · exact mem_of_mem_splitAtSlash (List.mem_filter.mp member).1 inside

variable {path : Path} {c : Char}

theorem Lacks.join (lacks : path.Lacks c) {other : Path} (others : other.Lacks c) :
    (path.join other).Lacks c := by
  rw [Path.join]
  split
  · exact others
  · exact ⟨lacks.root, List.forall_mem_append.mpr ⟨lacks.names, others.names⟩⟩

theorem Lacks.parent (lacks : path.Lacks c) : path.parent.Lacks c :=
  ⟨lacks.root, fun name member => lacks.names name ((List.dropLast_subset _) member)⟩

theorem Lacks.normalize (lacks : path.Lacks c) : path.normalize.Lacks c := by
  refine ⟨lacks.root, fun name member => lacks.names name ?_⟩
  exact (mem_of_mem_collapseAbove member).resolve_left List.not_mem_nil

/-- The text of a path is made of its characters, slashes, and a dot if it is "here". -/
theorem Lacks.not_mem_text (lacks : path.Lacks c) (noSlash : c ≠ '/') (noDot : c ≠ '.') :
    c ∉ path.text := by
  rw [Path.text, joinText]
  split
  · exact fun member => noDot (List.mem_singleton.mp member)
  · intro member
    rcases List.mem_append.mp member with inRoot | inNames
    · exact lacks.root inRoot
    · rcases mem_intercalate inNames with slash | ⟨name, known, inside⟩
      · exact noSlash (List.mem_singleton.mp slash)
      · exact lacks.names name known inside

/-- All characters of a path stand in its text. -/
theorem lacks_of_not_mem_text (absent : c ∉ path.text) : path.Lacks c := by
  rw [Path.text, joinText] at absent
  split at absent
  · next nothing =>
    rw [Bool.and_eq_true, List.isEmpty_iff, List.isEmpty_iff] at nothing
    refine ⟨by simp [nothing.1], by simp [nothing.2]⟩
  · rw [List.mem_append, not_or] at absent
    exact ⟨absent.1, fun name known inside => absent.2 (mem_intercalate_of_mem known inside)⟩

/-! ## Absolute paths -/

/-- A path with a slash in front of its root, if it has one, and with none in its names, which are not empty. -/
structure Proper (path : Path) : Prop where
  /-- There is no root, or it starts with a slash. -/
  root : path.root = [] ∨ path.root.head? = some '/'
  /-- The names start with another character. -/
  names : ∀ name ∈ path.names, ∃ first others, name = first :: others ∧ first ≠ '/'

theorem proper_ofText (text : List Char) : (ofText text).Proper := by
  refine ⟨?_, fun name member => ?_⟩
  · by_cases rooted : text.head? = some '/'
    · right
      show (rootOf text).head? = some '/'
      rcases rootOf_of_eq rooted with root | root <;> rw [root] <;> rfl
    · exact .inl (rootOf_of_ne rooted)
  · obtain ⟨part, kept⟩ := List.mem_filter.mp member
    have something : name ≠ [] := (of_decide_eq_true kept).1
    obtain ⟨first, others, rfl⟩ := List.exists_cons_of_ne_nil something
    refine ⟨first, others, rfl, ?_⟩
    rintro rfl
    exact not_mem_of_mem_splitAtSlash part List.mem_cons_self

theorem Proper.join (proper : path.Proper) {other : Path} (others : other.Proper) : (path.join other).Proper := by
  rw [Path.join]
  split
  · exact others
  · exact ⟨proper.root, List.forall_mem_append.mpr ⟨proper.names, others.names⟩⟩

theorem Proper.parent (proper : path.Proper) : path.parent.Proper :=
  ⟨proper.root, fun name member => proper.names name ((List.dropLast_subset _) member)⟩

theorem Proper.normalize (proper : path.Proper) : path.normalize.Proper := by
  refine ⟨proper.root, fun name member => proper.names name ?_⟩
  exact (mem_of_mem_collapseAbove member).resolve_left List.not_mem_nil

/-- The text of such a path starts with a slash exactly if the path is absolute. -/
theorem Proper.head?_text (proper : path.Proper) : path.text.head? = some '/' ↔ path.isAbsolute = true := by
  obtain ⟨root, names⟩ := path
  rw [Path.text, joinText, isAbsolute]
  rcases proper.root with none | slash
  · obtain rfl : root = [] := none
    refine iff_of_false ?_ (by simp)
    cases names with
    | nil => decide
    | cons name names =>
      obtain ⟨first, others, rfl, other⟩ := proper.names name List.mem_cons_self
      cases names <;> simp [List.intercalate, other]
  · obtain ⟨others, rfl⟩ := List.head?_eq_some_iff.mp slash
    exact iff_of_true rfl rfl

/-- A path that is read from a text is absolute exactly if the text starts with a slash. -/
theorem isAbsolute_ofText (text : List Char) : (ofText text).isAbsolute = true ↔ text.head? = some '/' := by
  by_cases rooted : text.head? = some '/'
  · refine iff_of_true ?_ rooted
    rcases rootOf_of_eq rooted with root | root <;> simp [isAbsolute, ofText, root]
  · refine iff_of_false ?_ rooted
    simp [isAbsolute, ofText, rootOf_of_ne rooted]

/-- What is seen from a path by a relative one is absolute exactly if the path is. -/
theorem isAbsolute_join {other : Path} (relative : other.isAbsolute = false) :
    (path.join other).isAbsolute = path.isAbsolute := by
  rw [Path.join, relative, if_neg Bool.false_ne_true]
  rfl

end Path

end Marginalia.File

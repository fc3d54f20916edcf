import Marginalia.Margin
import Marginalia.Proofs.Text.Lines

/-! # Shortening joined texts
A short text is one line, cut to a limit. Joining short texts and shortening the result gives what
shortening the joined texts gives at once (`shortened_join`), so a text that is put together piece by
piece is never cut differently from a text that is cut a single time. -/

namespace Marginalia

open Text

/-! ## Cutting -/

/-- A line cut to a number of characters, the last of them the mark of a cut. -/
def cut (limit : Nat) (line : List Char) : List Char :=
  if line.length ≤ limit then line else line.take (limit - 1) ++ [ellipsis]

/-- A text is shortened by putting it on one line and cutting that. -/
theorem shorten_eq_cut {limit : Nat} (positive : 1 ≤ limit) (text : List Char) :
    shorten limit text = cut limit (oneLine text) := by
  obtain ⟨count, rfl⟩ := Nat.exists_eq_add_of_le' positive
  have fewer : ((count + 1 : Nat) : Int) - 1 = Int.ofNat count := Int.add_sub_cancel count 1
  rw [shorten, cut, fewer, Nat.add_sub_cancel]
  simp only [takeTo, Int.ofNat_le]

/-- A line of at most the limit stays. -/
theorem cut_of_le {limit : Nat} {line : List Char} (fits : line.length ≤ limit) :
    cut limit line = line := if_pos fits

/-- A longer line is cut before the limit. -/
theorem cut_of_lt {limit : Nat} {line : List Char} (long : limit < line.length) :
    cut limit line = line.take (limit - 1) ++ [ellipsis] := if_neg (Nat.not_le.mpr long)

/-- Lines that are cut, joined by a text and cut again are cut where the whole lines are. -/
theorem cut_join {limit : Nat} (positive : 1 ≤ limit) {separator : List Char} (apart : separator ≠ [])
    (first second : List Char) :
    cut limit (cut limit first ++ (separator ++ cut limit second)) =
      cut limit (first ++ (separator ++ second)) := by
  have between : 0 < separator.length := List.length_pos_iff.mpr apart
  by_cases firstFits : first.length ≤ limit
  · rw [cut_of_le firstFits]
    by_cases secondFits : second.length ≤ limit
    · rw [cut_of_le secondFits]
    · -- The second line alone is longer than the limit, so the place of the cut lies before its own cut.
      have secondLong : limit < second.length := Nat.lt_of_not_le secondFits
      have long : limit < (first ++ (separator ++ second)).length := by
        simp only [List.length_append]
        omega
      have longAgain : limit <
          (first ++ (separator ++ (second.take (limit - 1) ++ [ellipsis]))).length := by
        simp only [List.length_append, List.length_take, List.length_singleton]
        omega
      rw [cut_of_lt secondLong, cut_of_lt long, cut_of_lt longAgain]
      have room : limit - 1 - first.length - separator.length ≤ (second.take (limit - 1)).length := by
        rw [List.length_take]
        omega
      rw [List.take_append, List.take_append, List.take_append_of_le_length room, List.take_take,
        List.take_append, List.take_append, Nat.min_eq_left (by omega)]
  · -- The first line was cut, so whatever follows it is cut off in both cases.
    have firstLong : limit < first.length := Nat.lt_of_not_le firstFits
    have kept : (first.take (limit - 1)).length = limit - 1 := by
      rw [List.length_take]
      omega
    have long : limit < (first ++ (separator ++ second)).length := by
      rw [List.length_append]
      omega
    have longAgain : limit <
        (first.take (limit - 1) ++ [ellipsis] ++ (separator ++ cut limit second)).length := by
      simp only [List.length_append, kept, List.length_singleton]
      omega
    rw [cut_of_lt firstLong, cut_of_lt long, cut_of_lt longAgain, List.append_assoc,
      List.take_append_of_le_length (Nat.le_of_eq kept.symm), List.take_take, Nat.min_self,
      List.take_append_of_le_length (by omega)]

/-- A cut line has at most as many characters as the limit says. -/
theorem length_cut_le {limit : Nat} (positive : 1 ≤ limit) (line : List Char) :
    (cut limit line).length ≤ limit := by
  rcases Nat.lt_or_ge limit line.length with long | fits
  · rw [cut_of_lt long, List.length_append, List.length_take, List.length_singleton]
    omega
  · rwa [cut_of_le fits]

/-- A cut line holds no line feed if the line holds none. -/
theorem not_mem_cut {limit : Nat} {line : List Char} (whole : '\n' ∉ line) : '\n' ∉ cut limit line := by
  have mark : '\n' ≠ ellipsis := by decide
  rw [cut]
  split
  · exact whole
  · intro member
    rcases List.mem_append.mp member with front | last
    · exact whole (List.mem_of_mem_take front)
    · exact mark (List.mem_singleton.mp last)

/-! ## Joining -/

/-- Short texts joined by a comma and shortened are the joined texts shortened. -/
theorem shorten_join {limit : Nat} (positive : 1 ≤ limit) (first second : List Char) :
    shorten limit (shorten limit first ++ (", ".toList ++ shorten limit second)) =
      shorten limit (first ++ (", ".toList ++ second)) := by
  have apart (first second : List Char) :
      oneLine (first ++ (", ".toList ++ second)) = oneLine first ++ (", ".toList ++ oneLine second) := by
    have comma : ", ".toList = [',', ' '] := rfl
    have blank : oneLine (' ' :: second) = ' ' :: oneLine second :=
      oneLine_cons_of_ne (by decide) fun isReturn => absurd isReturn (by decide)
    rw [comma, List.cons_append, List.singleton_append,
      oneLine_append_cons (by decide) (by decide), blank]
    rfl
  have still (text : List Char) : oneLine (cut limit (oneLine text)) = cut limit (oneLine text) :=
    oneLine_of_not_mem (not_mem_cut (not_mem_oneLine text))
  simp only [shorten_eq_cut positive, apart, still]
  exact cut_join positive (by decide) _ _

/-- **One cut is enough.** Short texts joined by a comma and shortened are the joined texts
shortened. -/
theorem shortened_join {limit : Int} (positive : 1 ≤ limit) (first second : String) :
    shortened limit (shortened limit first ++ ", " ++ shortened limit second) =
      shortened limit (first ++ ", " ++ second) := by
  obtain ⟨count, rfl⟩ := Int.eq_ofNat_of_zero_le (Int.le_trans (by decide) positive)
  have least : 1 ≤ count := by omega
  simp only [shortened, String.toList_append, String.toList_ofList, List.append_assoc,
    shorten_join least]

end Marginalia

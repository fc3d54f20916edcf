import Marginalia.Json.Reader
import Marginalia.Json.Writer

/-! # Integers on the wire
An integer of any size is read back from its digits (`readNumber_toString`), as long as the text behind it does
not go on with the number (`Stops`). -/

namespace Marginalia.Json

open Text

/-- A text that no number in front of it goes on with. -/
def Stops (text : List Char) : Prop :=
  ∀ c, text.head? = some c → c.isDigit = false ∧ c ≠ '.' ∧ c ≠ 'e' ∧ c ≠ 'E'

theorem stops_nil : Stops [] := nofun

theorem stops_cons {c : Char} (noDigit : c.isDigit = false) (noPoint : c ≠ '.') (noMark : c ≠ 'e' ∧ c ≠ 'E')
    (rest : List Char) : Stops (c :: rest) := by
  intro first leads
  obtain rfl : c = first := Option.some.inj leads
  exact ⟨noDigit, noPoint, noMark⟩

/-! ## Digits -/

/-- The digits of a number stand in front of a text that stops it. -/
theorem spanOf_digits {digits rest : List Char} (all : ∀ c ∈ digits, c.isDigit = true) (stops : Stops rest) :
    spanOf Char.isDigit (digits ++ rest) = (digits, rest) := by
  have front : rest.takeWhile Char.isDigit = [] ∧ rest.dropWhile Char.isDigit = rest := by
    cases rest with
    | nil => exact ⟨rfl, rfl⟩
    | cons c rest =>
      obtain ⟨noDigit, -⟩ := stops c rfl
      have kept : ¬ c.isDigit = true := by simp [noDigit]
      exact ⟨List.takeWhile_cons_of_neg kept, List.dropWhile_cons_of_neg kept⟩
  rw [spanOf, List.takeWhile_append_of_pos all, List.dropWhile_append_of_pos all, front.1, front.2,
    List.append_nil]

/-- A number above zero does not start with a zero. -/
theorem head?_toDigits_ne_zero {n : Nat} (positive : 0 < n) : (Nat.toDigits 10 n).head? ≠ some '0' := by
  induction n using Nat.strongRecOn with
  | _ n ih =>
    by_cases one : n < 10
    · have digit : ∀ n < 10, 0 < n → [Nat.digitChar n].head? ≠ some '0' := by decide
      rw [Nat.toDigits_of_lt_base one]
      exact digit n one positive
    · have front := ih (n / 10) (by omega) (by omega)
      obtain ⟨c, others, same⟩ := List.exists_cons_of_ne_nil (Nat.toDigits_ne_nil : Nat.toDigits 10 (n / 10) ≠ [])
      rw [Nat.toDigits_of_base_le (by decide) (by omega), same]
      rwa [same] at front

/-- The digits of a number are read in front of a text that stops it. -/
theorem readWhole_toDigits (n : Nat) {rest : List Char} (stops : Stops rest) :
    readWhole (Nat.toDigits 10 n ++ rest) = some (Nat.toDigits 10 n, rest) := by
  by_cases zero : n = 0
  · subst zero
    rfl
  · have all : ∀ c ∈ Nat.toDigits 10 n, c.isDigit = true :=
      fun c member => Nat.isDigit_of_mem_toDigits (by decide) (by decide) member
    have first := head?_toDigits_ne_zero (Nat.pos_of_ne_zero zero)
    have span := spanOf_digits all stops
    obtain ⟨c, others, same⟩ := List.exists_cons_of_ne_nil (Nat.toDigits_ne_nil : Nat.toDigits 10 n ≠ [])
    rw [same] at first span ⊢
    have notZero : c ≠ '0' := fun isZero => first (congrArg some isZero)
    rw [List.cons_append] at span ⊢
    rw [readWhole.eq_2 _ (fun _ zero => notZero (List.cons.inj zero).1), span]

/-- Nothing of a number is read from a text that stops it. -/
theorem readFraction_of_stops {rest : List Char} (stops : Stops rest) : readFraction rest = none := by
  cases rest with
  | nil => rfl
  | cons c rest =>
    obtain ⟨-, noPoint, -⟩ := stops c rfl
    rw [readFraction.eq_2 _ fun _ point => noPoint (List.cons.inj point).1]

theorem readExponent_of_stops {rest : List Char} (stops : Stops rest) : readExponent rest = none := by
  cases rest with
  | nil => rfl
  | cons c rest =>
    obtain ⟨-, -, noMark, noCapital⟩ := stops c rfl
    rw [readExponent, if_neg (not_or.mpr ⟨noMark, noCapital⟩)]

/-! ## Integers -/

/-- An integer is written as its sign and the digits of its size. -/
theorem toList_toString_int (value : Int) :
    (toString value).toList = (if value < 0 then ['-'] else []) ++ Nat.toDigits 10 value.natAbs := by
  cases value with
  | ofNat n =>
    have digits : toString (Int.ofNat n) = n.repr := rfl
    rw [digits, Nat.toList_repr, if_neg (by simp)]
    rfl
  | negSucc n =>
    have digits : toString (Int.negSucc n) = "-" ++ (n + 1).repr := rfl
    rw [digits, String.toList_append, Nat.toList_repr, if_pos (Int.negSucc_lt_zero n)]
    rfl

/-- The integer that some digits are read as. -/
theorem decimalValue_toDigits (n : Nat) : decimalValue (Nat.toDigits 10 n) = n :=
  Nat.ofDigitChars_toDigits (by decide) (by decide)

/-- A number is read from its digits, with a minus in front of it if it lies below zero. -/
theorem readNumber_digits (negative : Bool) (n : Nat) {rest : List Char} (stops : Stops rest) :
    readNumber ((if negative then ['-'] else []) ++ (Nat.toDigits 10 n ++ rest)) =
      some (.int (if negative then -(n : Int) else n), rest) := by
  have read := readWhole_toDigits n stops
  cases negative with
  | true =>
    simp [readNumber, read, readFraction_of_stops stops, readExponent_of_stops stops, decimalValue_toDigits]
  | false =>
    obtain ⟨c, others, same⟩ := List.exists_cons_of_ne_nil (Nat.toDigits_ne_nil : Nat.toDigits 10 n ≠ [])
    have noSign : c ≠ '-' := by
      have digit : c.isDigit = true :=
        Nat.isDigit_of_mem_toDigits (by decide) (by decide) (same ▸ List.mem_cons_self)
      exact ne_of_apply_ne Char.isDigit (by rw [digit]; decide)
    have value : decimalValue (c :: others) = n := same ▸ decimalValue_toDigits n
    rw [same, List.cons_append] at read
    simp [readNumber, same, noSign, read, readFraction_of_stops stops, readExponent_of_stops stops, value]

/-- **An integer is read back.** -/
theorem readNumber_toString (value : Int) {rest : List Char} (stops : Stops rest) :
    readNumber ((toString value).toList ++ rest) = some (.int value, rest) := by
  have signed : (if decide (value < 0) then -(value.natAbs : Int) else value.natAbs) = value := by
    by_cases below : value < 0
    · rw [if_pos (decide_eq_true below)]
      omega
    · rw [if_neg (by simpa using below)]
      omega
  have read := readNumber_digits (decide (value < 0)) value.natAbs stops
  rw [signed] at read
  rw [toList_toString_int, List.append_assoc, ← read]
  simp only [decide_eq_true_eq]

end Marginalia.Json

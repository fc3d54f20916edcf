import Marginalia.Json.Rounded
import Marginalia.Proofs.Json.RoundTrip
import Mathlib.Tactic.Ring

/-! # Large whole numbers
A reader without exact integers takes a large whole number for the floating-point number nearest to it and
writes that one again. Below a limit it is written with nothing but digits, so it is a whole number still
(`rounded_natCast`). The limit lies half of a step below `10 ^ 21`, which is the least number that is written
with an exponent: what lies nearer to it is taken for it. -/

namespace Marginalia

/-! ## Rounding -/

namespace Binary64

/-- A quotient is rounded down or up by less than one. -/
theorem roundQuotient_bounds (numerator denominator : Nat) :
    numerator / denominator ≤ roundQuotient numerator denominator ∧
      roundQuotient numerator denominator ≤ numerator / denominator + 1 := by
  unfold roundQuotient
  dsimp only
  split <;> omega

/-- What lies more than half of a step below a quotient is rounded to something below. -/
theorem roundQuotient_lt {numerator denominator quotient : Nat} (positive : 0 < denominator)
    (below : 2 * numerator + denominator < 2 * (denominator * quotient)) :
    roundQuotient numerator denominator < quotient := by
  have parts := Nat.div_add_mod numerator denominator
  have floor : numerator / denominator < quotient := by
    rw [Nat.div_lt_iff_lt_mul positive, Nat.mul_comm]
    omega
  by_cases next : numerator / denominator + 1 = quotient
  · -- The rest is less than half of a step, so nothing is rounded up.
    have rest : 2 * (numerator % denominator) < denominator := by
      have step : denominator * quotient = denominator * (numerator / denominator) + denominator := by
        rw [← next, Nat.mul_succ]
      omega
    have down : (decide (2 * (numerator % denominator) > denominator) ||
        2 * (numerator % denominator) == denominator && numerator / denominator % 2 == 1) = false := by
      rw [Bool.or_eq_false_iff, decide_eq_false_iff_not, Bool.and_eq_false_iff, beq_eq_false_iff_ne]
      exact ⟨by omega, .inl (by omega)⟩
    rw [roundQuotient]
    simp only [down, Bool.false_eq_true, if_false]
    exact floor
  · have high := (roundQuotient_bounds numerator denominator).2
    omega

/-- The exponent of a whole number of more than 53 bits. -/
theorem exponentFor_of_bits {number steps : Nat} (bits : Nat.log2 number = steps + 1 + 52) (some : number ≠ 0) :
    exponentFor number 1 = (steps + 1 : Nat) := by
  have estimate : (Nat.log2 number : Int) - Nat.log2 1 - 52 = (steps + 1 : Nat) := by
    have one : Nat.log2 1 = 0 := rfl
    rw [bits, one]
    omega
  have scale : scaleRatio number 1 (-((steps + 1 : Nat) : Int)) = (number, 1 * Nat.pow 2 (steps + 1)) := rfl
  have enough : ¬ number < 1 * Nat.pow 2 (steps + 1) * Nat.pow 2 52 := by
    have low := Nat.log2_self_le some
    rw [bits, Nat.pow_add] at low
    rw [Nat.one_mul]
    exact Nat.not_lt.mpr low
  rw [exponentFor, estimate, scale]
  simp only [if_neg enough, leastExponent]
  omega

end Binary64

namespace Json

/-- The least whole number that is taken for `10 ^ 21`. -/
def wholeLimit : Nat := 10 ^ 21 - 2 ^ 16

end Json

namespace Binary64

/-- A whole number below the limit that is rounded to 53 bits stays more than a step below `10 ^ 21`. -/
theorem roundQuotient_below {number steps : Nat} (small : number < Json.wholeLimit) (few : steps ≤ 16)
    (bits : number / 2 ^ (steps + 1) < 2 ^ 53) :
    roundQuotient number (2 ^ (steps + 1)) * 2 ^ (steps + 1) + 2 ^ 17 ≤ 10 ^ 21 ∧
      (roundQuotient number (2 ^ (steps + 1)) = 2 ^ 53 → steps + 1 ≤ 16) := by
  have up := (roundQuotient_bounds number (2 ^ (steps + 1))).2
  by_cases top : steps = 16
  · -- In the highest binade there is a step between what is rounded and the limit.
    subst top
    have last : roundQuotient number (2 ^ (16 + 1)) < 7629394531250000 := by
      refine roundQuotient_lt (by decide) ?_
      have bound : number < 999999999999999934464 := small
      omega
    omega
  · have power : 2 ^ (steps + 1) ≤ 2 ^ 16 := Nat.pow_le_pow_right (by decide) (by omega)
    have product := Nat.mul_le_mul (by omega : roundQuotient number (2 ^ (steps + 1)) ≤ 2 ^ 53) power
    exact ⟨by omega, fun _ => by omega⟩

/-- A whole number is rounded at its own exponent; if that takes one more bit, the next exponent has room. -/
theorem ofInt_of_bits {number steps : Nat} (bits : Nat.log2 number = steps + 1 + 52) (some : number ≠ 0)
    (few : steps ≤ 16) (least : 0 < roundQuotient number (2 ^ (steps + 1))) :
    ofInt number = if roundQuotient number (2 ^ (steps + 1)) = 2 ^ 53
      then .finite false (2 ^ 52) (steps + 1 + 1 : Nat)
      else .finite false (roundQuotient number (2 ^ (steps + 1))) (steps + 1 : Nat) := by
  have scale : scaleRatio number 1 (-((steps + 1 : Nat) : Int)) = (number, 1 * Nat.pow 2 (steps + 1)) := rfl
  have unit : 1 * Nat.pow 2 (steps + 1) = 2 ^ (steps + 1) := Nat.one_mul _
  have power : Nat.pow 2 53 = 2 ^ 53 := rfl
  have positive : decide ((number : Int) < 0) = false := by simp
  have rounded : ofInt number = ofRatio false number 1 := by rw [ofInt, positive]; rfl
  rw [rounded, ofRatio, if_neg some, exponentFor_of_bits bits some]
  dsimp only
  rw [scale, unit, power]
  by_cases full : roundQuotient number (2 ^ (steps + 1)) = 2 ^ 53
  · have room : ¬ ((steps + 1 : Nat) : Int) + 1 > greatestExponent := by rw [greatestExponent]; omega
    rw [if_pos full]
    dsimp only
    rw [if_pos full, if_neg (by decide), if_neg room]
    rfl
  · have room : ¬ ((steps + 1 : Nat) : Int) > greatestExponent := by rw [greatestExponent]; omega
    rw [if_neg full]
    dsimp only
    rw [if_neg full, if_neg (Nat.ne_of_gt least), if_neg room]

/-- The number nearest to a whole number of more than 53 bits below the limit is whole, and more than a step
below `10 ^ 21`. -/
theorem exists_ofInt {number : Nat} (large : 2 ^ 53 < number) (small : number < Json.wholeLimit) :
    ∃ significand exponent : Nat, ofInt number = .finite false significand exponent ∧ 2 ^ 52 ≤ significand ∧
      0 < exponent ∧ exponent ≤ 17 ∧ significand * 2 ^ exponent + 2 ^ 17 ≤ 10 ^ 21 := by
  have some : number ≠ 0 := by omega
  have low : 53 ≤ Nat.log2 number := (Nat.le_log2 some).mpr (Nat.le_of_lt large)
  have high : Nat.log2 number < 70 := (Nat.log2_lt some).mpr (Nat.lt_trans small (by decide))
  obtain ⟨steps, bits⟩ : ∃ steps, Nat.log2 number = steps + 1 + 52 := ⟨Nat.log2 number - 53, by omega⟩
  have from52 : 2 ^ 52 ≤ number / 2 ^ (steps + 1) := by
    rw [Nat.le_div_iff_mul_le (Nat.two_pow_pos _), ← Nat.pow_add, Nat.add_comm, ← bits]
    exact Nat.log2_self_le some
  have to53 : number / 2 ^ (steps + 1) < 2 ^ 53 := by
    have beyond : number < 2 ^ (Nat.log2 number + 1) := Nat.lt_log2_self
    have sum : Nat.log2 number + 1 = 53 + (steps + 1) := by omega
    rwa [sum, Nat.pow_add, ← Nat.div_lt_iff_lt_mul (Nat.two_pow_pos _)] at beyond
  have down := (roundQuotient_bounds number (2 ^ (steps + 1))).1
  obtain ⟨below, room⟩ := roundQuotient_below small (by omega) to53
  rw [ofInt_of_bits bits some (by omega) (by omega)]
  -- Rounding up to a power of two moves the number to the next binade, where there is room for it.
  by_cases full : roundQuotient number (2 ^ (steps + 1)) = 2 ^ 53
  · have few := room full
    have same : 2 ^ 52 * 2 ^ (steps + 1 + 1) = 2 ^ 53 * 2 ^ (steps + 1) := by
      rw [Nat.pow_succ 2 (steps + 1)]
      omega
    rw [if_pos full]
    refine ⟨2 ^ 52, steps + 1 + 1, rfl, Nat.le_refl _, by omega, by omega, ?_⟩
    rw [same, ← full]
    exact below
  · rw [if_neg full]
    exact ⟨_, _, rfl, by omega, by omega, by omega, below⟩

end Binary64

/-! ## Digits -/

namespace DecimalDigits

/-- A decimal number that is whole and lies below `10 ^ 21`. -/
structure IsWhole (decimal : DecimalDigits) (power : Nat) : Prop where
  /-- The last digit stands at the point or in front of it. -/
  exponent : decimal.exponent = power
  /-- It is no zero with other zeros behind it. -/
  leads : decimal.digits = 0 → power = 0
  /-- It has at most 21 digits. -/
  below : decimal.digits * 10 ^ power < 10 ^ 21

theorem isWhole_zero : IsWhole ⟨0, 0⟩ 0 := ⟨rfl, fun _ => rfl, by decide⟩

/-- A whole number stays whole when zeros are dropped, and stays the same. -/
theorem IsWhole.dropZeros_go {decimal : DecimalDigits} {power : Nat} (whole : decimal.IsWhole power) (fuel : Nat) :
    ∃ other, (dropZeros.go fuel decimal).IsWhole other := by
  induction fuel generalizing decimal power with
  | zero => exact ⟨power, whole⟩
  | succ fuel ih =>
    obtain ⟨digits, exponent⟩ := decimal
    rw [dropZeros.go]
    split
    · next drops =>
      have tens : digits / 10 * 10 = digits := Nat.div_mul_cancel (Nat.dvd_of_mod_eq_zero drops.2)
      have something : digits / 10 ≠ 0 := fun none => drops.1 (by rw [← tens, none])
      have shifted : IsWhole ⟨digits / 10, exponent + 1⟩ (power + 1) := by
        refine ⟨congrArg (· + 1) whole.exponent, fun none => absurd none something, ?_⟩
        have below := whole.below
        rw [Nat.pow_succ, Nat.mul_comm (10 ^ power), ← Nat.mul_assoc, tens]
        exact below
      exact ih shifted
    · exact ⟨power, whole⟩

theorem IsWhole.dropZeros {decimal : DecimalDigits} {power : Nat} (whole : decimal.IsWhole power) :
    ∃ other, decimal.dropZeros.IsWhole other := whole.dropZeros_go _

end DecimalDigits

/-- Zeros behind the digits of a number multiply it by a power of ten. -/
theorem toDigits_mul_pow {digits : Nat} (positive : 0 < digits) (power : Nat) :
    Nat.toDigits 10 (digits * 10 ^ power) = Nat.toDigits 10 digits ++ List.replicate power '0' := by
  induction power with
  | zero => simp
  | succ power ih =>
    have more : 0 < digits * 10 ^ power := Nat.mul_pos positive (Nat.pow_pos (by decide))
    have zero : '0' = Nat.digitChar 0 := rfl
    rw [Nat.pow_succ, ← Nat.mul_assoc, Nat.toDigits_of_base_le (by decide) (by omega),
      Nat.mul_div_cancel _ (by decide), Nat.mul_mod_left, ih, List.append_assoc, List.replicate_succ', zero]

/-- The digits of a whole number and the zeros behind them are 21 at most. -/
theorem DecimalDigits.IsWhole.length_le {decimal : DecimalDigits} {power : Nat} (whole : decimal.IsWhole power) :
    (Nat.toDigits 10 decimal.digits).length + power ≤ 21 := by
  by_cases zero : decimal.digits = 0
  · rw [zero, whole.leads zero]
    decide
  · have below := whole.below
    have few : power < 21 := by
      refine (Nat.pow_lt_pow_iff_right (by decide : 1 < 10)).mp (Nat.lt_of_le_of_lt ?_ below)
      exact Nat.le_mul_of_pos_left _ (Nat.pos_of_ne_zero zero)
    have parts : 10 ^ 21 = 10 ^ (21 - power) * 10 ^ power := by
      rw [← Nat.pow_add, Nat.sub_add_cancel (Nat.le_of_lt few)]
    have digits : decimal.digits < 10 ^ (21 - power) := by
      rw [parts] at below
      exact Nat.lt_of_mul_lt_mul_right below
    have length := (Nat.length_toDigits_le_iff (by decide) (by omega : 0 < 21 - power)).mpr digits
    omega

/-- A whole number is laid out in its digits alone. -/
theorem DecimalDigits.IsWhole.layDigits {decimal : DecimalDigits} {power : Nat} (whole : decimal.IsWhole power) :
    scriptLayout.layDigits decimal = Nat.toDigits 10 (decimal.digits * 10 ^ power) := by
  have most := whole.length_le
  have least : 0 < (Nat.toDigits 10 decimal.digits).length := List.length_pos_iff.mpr Nat.toDigits_ne_nil
  have range : scriptLayout.leastPoint ≤ (Nat.toDigits 10 decimal.digits).length + decimal.exponent ∧
      (Nat.toDigits 10 decimal.digits).length + decimal.exponent ≤ scriptLayout.greatestPoint := by
    have low : scriptLayout.leastPoint = -5 := rfl
    have high : scriptLayout.greatestPoint = 21 := rfl
    rw [low, high, whole.exponent]
    omega
  have zeros : ((Nat.toDigits 10 decimal.digits).length + (power : Int)).toNat -
      (Nat.toDigits 10 decimal.digits).length = power := by omega
  have plain : (if scriptLayout.keepsPoint = true then ['.', '0'] else []) = [] := rfl
  rw [NumberLayout.layDigits]
  dsimp only
  rw [if_pos range, whole.exponent, if_neg (by omega), if_neg (by omega), zeros, plain, List.append_nil]
  by_cases zero : decimal.digits = 0
  · rw [zero, whole.leads zero]
    rfl
  · exact (toDigits_mul_pow (Nat.pos_of_ne_zero zero) power).symm

/-! ## Shortest digits -/

/-- A quarter of a power of two, as a fraction. -/
theorem exists_powerRatio {exponent : Nat} (positive : 0 < exponent) :
    ∃ twos halves : Nat, powerRatio 2 ((exponent : Int) - 2) = (twos, halves) ∧ 0 < halves ∧
      4 * twos = 2 ^ exponent * halves := by
  obtain ⟨more, rfl⟩ := Nat.exists_eq_add_of_lt positive
  cases more with
  | zero => exact ⟨1, 2, rfl, by decide, by decide⟩
  | succ more =>
    refine ⟨2 ^ more, 1, ?_, by decide, ?_⟩
    · have quarter : ((0 + (more + 1) + 1 : Nat) : Int) - 2 = (more : Nat) := by omega
      rw [quarter]
      rfl
    · rw [Nat.mul_one, Nat.zero_add, Nat.pow_succ, Nat.pow_succ]
      omega

/-- Whether the point of a grid with some digits rounds to a number. -/
def roundsTo (significand : Nat) (exponent position digits : Int) : Bool :=
  let quarters : Int := 4 * significand
  let lower := quarters - (if significand = Nat.pow 2 52 ∧ exponent > Binary64.leastExponent then 1 else 2)
  let upper := quarters + 2
  let (twos, halves) := powerRatio 2 (exponent - 2)
  let (tens, tenths) := powerRatio 10 position
  if significand % 2 = 0 then
    lower * twos * tenths ≤ digits * tens * halves && digits * tens * halves ≤ upper * twos * tenths
  else lower * twos * tenths < digits * tens * halves && digits * tens * halves < upper * twos * tenths

/-- The digits of the greatest point of a grid that a number does not lie below. -/
def gridFloor (significand : Nat) (exponent position : Int) : Int :=
  let (twos, halves) := powerRatio 2 (exponent - 2)
  let (tens, tenths) := powerRatio 10 position
  4 * (significand : Int) * twos * tenths / (tens * halves)

section Grid

variable {significand : Nat} {exponent position : Int}

theorem gridFloor_nonneg : 0 ≤ gridFloor significand exponent position := by
  unfold gridFloor
  refine Int.ediv_nonneg ?_ ?_
  · exact_mod_cast Nat.zero_le _
  · exact_mod_cast Nat.zero_le _

/-- A point of a grid is one of the two next to the number, if it rounds to it. -/
theorem gridPoint?_eq (significand : Nat) (exponent position : Int) :
    let floor := gridFloor significand exponent position
    ∃ nearer : Bool, gridPoint? significand exponent position =
      (match decide (0 < floor) && roundsTo significand exponent position floor,
          roundsTo significand exponent position (floor + 1) with
        | true, true => if nearer then some floor else some (floor + 1)
        | true, false => some floor
        | false, true => some (floor + 1)
        | false, false => none).map fun digits : Int => (⟨digits.toNat, position⟩ : DecimalDigits) := ⟨_, rfl⟩

/-- A point that is found on a grid has digits and rounds to the number. -/
theorem exists_of_gridPoint {decimal : DecimalDigits} (found : gridPoint? significand exponent position = some decimal) :
    ∃ digits : Nat, 0 < digits ∧ roundsTo significand exponent position digits = true ∧
      decimal = ⟨digits, position⟩ := by
  have least := @gridFloor_nonneg significand exponent position
  obtain ⟨nearer, same⟩ := gridPoint?_eq significand exponent position
  obtain ⟨digits, chosen, rfl⟩ := Option.map_eq_some_iff.mp (same.symm.trans found)
  have rounds : 0 < digits ∧ roundsTo significand exponent position digits = true := by
    split at chosen
    · next low high =>
      obtain ⟨positive, low⟩ := (Bool.and_eq_true _ _).mp low
      split at chosen
      · exact Option.some.inj chosen ▸ ⟨of_decide_eq_true positive, low⟩
      · exact Option.some.inj chosen ▸ ⟨by omega, high⟩
    · next low high =>
      obtain ⟨positive, low⟩ := (Bool.and_eq_true _ _).mp low
      exact Option.some.inj chosen ▸ ⟨of_decide_eq_true positive, low⟩
    · next low high => exact Option.some.inj chosen ▸ ⟨by omega, high⟩
    · cases chosen
  have whole : (digits.toNat : Int) = digits := Int.toNat_of_nonneg (Int.le_of_lt rounds.1)
  exact ⟨digits.toNat, by omega, whole.symm ▸ rounds.2, rfl⟩

/-- Where the point below a number rounds to it, one is found. -/
theorem isSome_gridPoint (positive : 0 < gridFloor significand exponent position)
    (rounds : roundsTo significand exponent position (gridFloor significand exponent position) = true) :
    (gridPoint? significand exponent position).isSome = true := by
  obtain ⟨nearer, same⟩ := gridPoint?_eq significand exponent position
  rw [same, rounds, decide_eq_true positive, Bool.true_and, Option.isSome_map]
  cases roundsTo significand exponent position (gridFloor significand exponent position + 1) with
  | true => cases nearer <;> rfl
  | false => rfl

end Grid

section Whole

variable {significand exponent : Nat}

/-- A point of a whole grid that rounds to a whole number is whole. -/
theorem isWhole_of_gridPoint {position : Nat} {decimal : DecimalDigits} (positive : 0 < exponent)
    (few : exponent ≤ 17) (below : significand * 2 ^ exponent + 2 ^ 17 ≤ 10 ^ 21)
    (found : gridPoint? significand exponent position = some decimal) : decimal.IsWhole position := by
  obtain ⟨digits, least, rounds, rfl⟩ := exists_of_gridPoint found
  refine ⟨rfl, fun zero => absurd zero (Nat.ne_of_gt least), ?_⟩
  obtain ⟨twos, halves, ratio, some, quarter⟩ := exists_powerRatio positive
  have tens : powerRatio 10 (position : Int) = (10 ^ position, 1) := rfl
  -- Half of a step above the number is less than the whole step that there is up to the bound.
  have upper : digits * 10 ^ position * halves ≤ (4 * significand + 2) * twos := by
    rw [roundsTo, ratio, tens] at rounds
    dsimp only at rounds
    split at rounds
    · have high := of_decide_eq_true ((Bool.and_eq_true _ _).mp rounds).2
      rw [Int.natCast_one, Int.mul_one] at high
      exact_mod_cast high
    · have high := of_decide_eq_true ((Bool.and_eq_true _ _).mp rounds).2
      rw [Int.natCast_one, Int.mul_one] at high
      exact_mod_cast Int.le_of_lt high
  have power : 2 ^ exponent ≤ 2 ^ 17 := Nat.pow_le_pow_right (by decide) few
  have double : 2 * (digits * 10 ^ position) * halves ≤ (2 * (significand * 2 ^ exponent) + 2 ^ exponent) * halves :=
    calc
      2 * (digits * 10 ^ position) * halves = 2 * (digits * 10 ^ position * halves) := by ring
      _ ≤ 2 * ((4 * significand + 2) * twos) := Nat.mul_le_mul_left 2 upper
      _ = (2 * significand + 1) * (4 * twos) := by ring
      _ = (2 * (significand * 2 ^ exponent) + 2 ^ exponent) * halves := by rw [quarter]; ring
  have half := Nat.le_of_mul_le_mul_right double some
  show digits * 10 ^ position < 10 ^ 21
  omega

/-- A whole number stands on the grid of the whole numbers. -/
theorem isSome_gridPoint_zero (positive : 0 < exponent) (something : 0 < significand) :
    (gridPoint? significand exponent 0).isSome = true := by
  obtain ⟨twos, halves, ratio, some, quarter⟩ := exists_powerRatio positive
  have ones : powerRatio 10 0 = (1, 1) := rfl
  have whole : 0 < significand * 2 ^ exponent := Nat.mul_pos something (Nat.two_pow_pos exponent)
  have more : 0 < twos := by
    have product : 0 < 2 ^ exponent * halves := Nat.mul_pos (Nat.two_pow_pos exponent) some
    omega
  have same : 4 * (significand : Int) * twos = (significand * 2 ^ exponent : Nat) * halves := by
    have product : 4 * significand * twos = significand * 2 ^ exponent * halves := by
      rw [Nat.mul_assoc significand, ← quarter]
      ring
    exact_mod_cast product
  have floor : gridFloor significand exponent 0 = (significand * 2 ^ exponent : Nat) := by
    rw [gridFloor, ratio, ones]
    simp only [Int.natCast_one, Int.mul_one, Int.one_mul]
    rw [same]
    exact Int.mul_ediv_cancel _ (by omega)
  -- The number is the point below itself, so it lies between the bounds of what rounds to it.
  refine isSome_gridPoint (by rw [floor]; exact_mod_cast whole) ?_
  have lower : ∀ less : Int, 0 < less → (4 * (significand : Int) - less) * twos < 4 * (significand : Int) * twos :=
    fun less positive => Int.mul_lt_mul_of_pos_right (by omega) (by omega)
  have upper : 4 * (significand : Int) * twos < (4 * (significand : Int) + 2) * twos :=
    Int.mul_lt_mul_of_pos_right (by omega) (by omega)
  have step : 0 < (if significand = Nat.pow 2 52 ∧ (exponent : Int) > Binary64.leastExponent then 1 else 2 : Int) := by
    split <;> decide
  rw [floor, roundsTo, ratio, ones]
  simp only [Int.natCast_one, Int.mul_one, ← same]
  split
  · rw [Bool.and_eq_true, decide_eq_true_eq, decide_eq_true_eq]
    exact ⟨Int.le_of_lt (lower _ step), Int.le_of_lt upper⟩
  · rw [Bool.and_eq_true, decide_eq_true_eq, decide_eq_true_eq]
    exact ⟨lower _ step, upper⟩

/-- The point of a whole number of 53 bits lies behind its digits. -/
theorem one_le_pointPosition (bits : 2 ^ 52 ≤ significand) : 1 ≤ pointPosition significand exponent := by
  have log : 52 ≤ Nat.log2 significand :=
    (Nat.le_log2 (Nat.ne_of_gt (Nat.lt_of_lt_of_le (Nat.two_pow_pos 52) bits))).mpr bits
  have estimate : 15 ≤ ((Nat.log2 significand : Int) + exponent) * 30103 / 100000 := by omega
  have first (isAbove : Int → Bool) (estimate : Int) (large : 15 ≤ estimate) :
      1 ≤ ([estimate - 1, estimate, estimate + 1].find? isAbove).getD (estimate + 2) := by
    cases found : [estimate - 1, estimate, estimate + 1].find? isAbove with
    | none => rw [Option.getD_none]; omega
    | some position =>
      have listed := List.mem_of_find?_eq_some found
      simp only [List.mem_cons, List.not_mem_nil, or_false] at listed
      rw [Option.getD_some]
      omega
  exact first _ _ estimate

/-- The shortest decimal of a large whole number is whole. -/
theorem isWhole_shortestDecimal (bits : 2 ^ 52 ≤ significand) (positive : 0 < exponent) (few : exponent ≤ 17)
    (below : significand * 2 ^ exponent + 2 ^ 17 ≤ 10 ^ 21) :
    ∃ power, (shortestDecimal significand exponent).IsWhole power := by
  have something : 0 < significand := Nat.lt_of_lt_of_le (Nat.two_pow_pos 52) bits
  obtain ⟨point, same⟩ := Int.eq_ofNat_of_zero_le (Int.le_trans (by decide) (@one_le_pointPosition _ exponent bits))
  have ahead : 0 < point := by
    have least := @one_le_pointPosition _ exponent bits
    omega
  rw [shortestDecimal, same]
  cases found : (List.range 17).findSome? fun count =>
      gridPoint? significand exponent ((point : Int) - (count + 1 : Nat)) with
  | none => exact DecimalDigits.isWhole_zero.dropZeros
  | some decimal =>
    obtain ⟨tried, count, others, parts, here, silent⟩ := List.findSome?_eq_some_iff.mp found
    rw [List.range_eq_range'] at parts
    obtain ⟨place, -, rfl, rest⟩ := List.range'_eq_append_iff.mp parts
    obtain ⟨stops, -, -⟩ := List.range'_eq_cons_iff.mp rest.symm
    -- A finer grid than that of the whole numbers is not tried, for the number stands on that one.
    have reached : count < point := by
      by_contra beyond
      have none := silent (point - 1) (List.mem_range'_1.mpr (by omega))
      have units : (point : Int) - (point - 1 + 1 : Nat) = 0 := by omega
      have stands := isSome_gridPoint_zero positive something
      rw [units] at none
      rw [none] at stands
      cases stands
    obtain ⟨position, left⟩ := Int.eq_ofNat_of_zero_le (by omega : 0 ≤ (point : Int) - (count + 1 : Nat))
    rw [left] at here
    exact (isWhole_of_gridPoint positive few below here).dropZeros

end Whole

/-! ## Wire values -/

namespace Json

/-- A whole number is read from its digits. -/
theorem read?_toDigits (dialect : Dialect) (number : Nat) :
    read? dialect (Nat.toDigits 10 number) = some (.int number) := by
  have digits : (Json.int number).render = Nat.toDigits 10 number := by
    have written : (Json.int number).render = (toString (number : Int)).toList := rfl
    have signless : ¬ (number : Int) < 0 := by omega
    rw [written, toList_toString_int, if_neg signless]
    rfl
  rw [← digits]
  exact read?_render dialect (.int number)

/-- **A whole number below the limit stays a whole number** when it is rounded. -/
theorem rounded_natCast {number : Nat} (small : number < wholeLimit) :
    ∃ other : Nat, (Json.int number).rounded = .int other := by
  by_cases large : 2 ^ 53 < number
  · obtain ⟨significand, exponent, nearest, bits, positive, few, below⟩ := Binary64.exists_ofInt large small
    obtain ⟨power, whole⟩ := isWhole_shortestDecimal bits positive few below
    have something : significand ≠ 0 := Nat.ne_of_gt (Nat.lt_of_lt_of_le (Nat.two_pow_pos 52) bits)
    have text : scriptLayout.text (.finite false significand exponent) =
        Nat.toDigits 10 ((shortestDecimal significand exponent).digits * 10 ^ power) := by
      rw [NumberLayout.text, if_neg something, whole.layDigits]
      rfl
    have beyond : ¬ ((number : Int).natAbs ≤ exactLimit) := Nat.not_le.mpr large
    rw [rounded, if_neg beyond, nearest, ofBinary64, text, read?_toDigits]
    exact ⟨_, rfl⟩
  · exact ⟨number, rounded_int (Nat.not_lt.mp large)⟩

end Json

end Marginalia

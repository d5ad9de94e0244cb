import Mathlib.Data.Int.Log
import Mathlib.Data.Rat.Floor
import Mathlib.Tactic.Positivity
import Bytewise.Decimal.Binary64

/-! Fractions as rational numbers. What is rounded from a fraction depends on its value only, not
on the terms that the value is written in.
-/

namespace Bytewise

-----------------------------------------------------------------------------------------
-- Rounded quotients
-----------------------------------------------------------------------------------------

/-- A quotient is rounded down until it is a half above an integer, and up from there on. -/
theorem roundDiv_half (tie : Tie) (num den : Nat)
    : roundDiv tie num den = num / den ∧ 2 * (num % den) ≤ den
      ∨ roundDiv tie num den = num / den + 1 ∧ den ≤ 2 * (num % den) := by
  simp only [roundDiv]
  split
  · next below => exact Or.inl ⟨rfl, Nat.le_of_lt below⟩
  · split
    · next above => exact Or.inr ⟨rfl, Nat.le_of_lt above⟩
    · cases tie with
      | awayFromZero => exact Or.inr ⟨rfl, by omega⟩
      | toEven =>
          dsimp only
          omega

/-- A quotient is rounded to one of the two integers around it. -/
theorem roundDiv_cases (tie : Tie) (num den : Nat)
    : roundDiv tie num den = num / den ∨ roundDiv tie num den = num / den + 1 :=
  (roundDiv_half tie num den).imp And.left And.left

theorem roundDiv_mul_right (tie : Tie) (num den : Nat) {factor : Nat} (pos : 0 < factor)
    : roundDiv tie (num * factor) (den * factor) = roundDiv tie num den := by
  have less : 2 * (num * factor % (den * factor)) < den * factor ↔ 2 * (num % den) < den := by
    rw [Nat.mul_mod_mul_right, ← Nat.mul_assoc, Nat.mul_lt_mul_right pos]
  have more : den * factor < 2 * (num * factor % (den * factor)) ↔ den < 2 * (num % den) := by
    rw [Nat.mul_mod_mul_right, ← Nat.mul_assoc, Nat.mul_lt_mul_right pos]
  simp only [roundDiv, Nat.mul_div_mul_right _ _ pos, less, more]

theorem roundDiv_mul_self (tie : Tie) (number : Nat) {den : Nat} (pos : 0 < den)
    : roundDiv tie (number * den) den = number := by
  simp [roundDiv, Nat.mul_div_cancel _ pos, pos]

namespace Fraction

variable {fraction other : Fraction} {base : Nat}

-----------------------------------------------------------------------------------------
-- Values
-----------------------------------------------------------------------------------------

def value (fraction : Fraction) : ℚ := fraction.num / fraction.den

theorem value_nonneg (fraction : Fraction) : 0 ≤ fraction.value :=
  div_nonneg (Nat.cast_nonneg _) (Nat.cast_nonneg _)

@[simp]
theorem value_ofNat (number : Nat) : (ofNat number).value = number := by
  simp [value, ofNat]

theorem den_scale_pos (pos : 0 < fraction.den) (basePos : 0 < base) (exponent : Int)
    : 0 < (fraction.scale base exponent).den :=
  Nat.mul_pos pos (Nat.pow_pos basePos)

theorem value_scale (fraction : Fraction) (basePos : 0 < base) (exponent : Int)
    : (fraction.scale base exponent).value = fraction.value * (base : ℚ) ^ exponent := by
  have nonzero : (base : ℚ) ≠ 0 := by exact_mod_cast basePos.ne'
  have split : exponent = (exponent.toNat : Int) - ((-exponent).toNat : Int) := by omega
  have power : (base : ℚ) ^ exponent
      = (base : ℚ) ^ exponent.toNat / (base : ℚ) ^ (-exponent).toNat := by
    conv_lhs => rw [split]
    rw [zpow_sub₀ nonzero, zpow_natCast, zpow_natCast]
  rw [power, value, value, scale, Nat.pow_eq, Nat.pow_eq]
  push_cast
  exact mul_div_mul_comm ..

/-- Fractions have one value exactly when their crosswise products are the same. -/
theorem value_eq_iff (pos : 0 < fraction.den) (otherPos : 0 < other.den)
    : fraction.value = other.value
      ↔ fraction.num * other.den = other.num * fraction.den := by
  have nonzero : (fraction.den : ℚ) ≠ 0 := by exact_mod_cast pos.ne'
  have otherNonzero : (other.den : ℚ) ≠ 0 := by exact_mod_cast otherPos.ne'
  rw [value, value, div_eq_div_iff nonzero otherNonzero]
  exact_mod_cast Iff.rfl

theorem value_pos_iff (pos : 0 < fraction.den) : 0 < fraction.value ↔ fraction.num ≠ 0 := by
  have denPos : (0 : ℚ) < fraction.den := by exact_mod_cast pos
  rw [value, div_pos_iff_of_pos_right denPos, Nat.cast_pos, Nat.pos_iff_ne_zero]

theorem round_congr (pos : 0 < fraction.den) (otherPos : 0 < other.den)
    (same : fraction.value = other.value) (tie : Tie)
    : fraction.round tie = other.round tie := by
  have products := (value_eq_iff pos otherPos).mp same
  rw [round, round, ← roundDiv_mul_right tie fraction.num fraction.den otherPos, products,
    Nat.mul_comm fraction.den, roundDiv_mul_right tie _ _ pos]

-----------------------------------------------------------------------------------------
-- Places
-----------------------------------------------------------------------------------------

/-- A number of at least one digit lies between the powers that its digits are counted by. -/
theorem digitCount_bounds (base_gt : 1 < base) {number : Nat} (pos : 0 < number)
    : base ^ (digitCount base number - 1) ≤ number
      ∧ number < base ^ digitCount base number := by
  have countPos : 0 < digitCount base number := Nat.length_toDigits_pos
  refine ⟨?_, (Nat.length_toDigits_le_iff base_gt countPos).mp (Nat.le_refl _)⟩
  by_cases one : digitCount base number = 1
  · rw [one]
    exact pos
  · apply Nat.le_of_not_lt
    intro small
    have fewer := (Nat.length_toDigits_le_iff base_gt (by omega)).mpr small
    have count : digitCount base number = (Nat.toDigits base number).length := rfl
    omega

/-- From one on, the place counts the digits before the point. -/
theorem place_bounds_of_atLeast (base_gt : 1 < base) (pos : 0 < fraction.den)
    (large : fraction.atLeast 1)
    : (base : ℚ) ^ (fraction.place base - 1) ≤ fraction.value
      ∧ fraction.value < (base : ℚ) ^ fraction.place base := by
  have denPos : (0 : ℚ) < fraction.den := by exact_mod_cast pos
  have floorPos : 0 < fraction.floor := by
    apply Nat.div_pos _ pos
    simpa [atLeast] using large
  obtain ⟨low, high⟩ := digitCount_bounds base_gt floorPos
  have countPos : 0 < digitCount base fraction.floor := Nat.length_toDigits_pos
  have floor_le : (fraction.floor : ℚ) ≤ fraction.value := by
    rw [value, le_div_iff₀ denPos]
    exact_mod_cast Nat.div_mul_le_self fraction.num fraction.den
  have lt_floor : fraction.value < fraction.floor + 1 := by
    rw [value, div_lt_iff₀ denPos]
    have lt := Nat.lt_mul_div_succ fraction.num pos
    rw [Nat.mul_comm] at lt
    exact_mod_cast lt
  have place : fraction.place base = digitCount base fraction.floor := if_pos large
  have before : fraction.place base - 1 = ((digitCount base fraction.floor - 1 : Nat) : Int) := by
    omega
  constructor
  · rw [before, zpow_natCast]
    exact le_trans (by exact_mod_cast low) floor_le
  · rw [place, zpow_natCast]
    exact lt_of_lt_of_le lt_floor (by exact_mod_cast high)

/-- Below one, the place counts the shifts by the base that bring the fraction there. -/
theorem place_bounds_of_not_atLeast (base_gt : 1 < base) (pos : 0 < fraction.den)
    (nonzero : fraction.num ≠ 0) (small : ¬ fraction.atLeast 1)
    : (base : ℚ) ^ (fraction.place base - 1) ≤ fraction.value
      ∧ fraction.value < (base : ℚ) ^ fraction.place base := by
  have denPos : (0 : ℚ) < fraction.den := by exact_mod_cast pos
  have basePos : (0 : ℚ) < base := by exact_mod_cast Nat.zero_lt_of_lt base_gt
  have enough : fraction.den ≤ fraction.num * base ^ digitCount base fraction.den :=
    calc fraction.den
      _ ≤ base ^ digitCount base fraction.den := (digitCount_bounds base_gt pos).2.le
      _ ≤ fraction.num * base ^ digitCount base fraction.den :=
        Nat.le_mul_of_pos_left _ (Nat.pos_of_ne_zero nonzero)
  cases found : (List.range (digitCount base fraction.den + 1)).find?
      (fun shift => fraction.den ≤ fraction.num * Nat.pow base shift) with
  | none =>
      have missed := List.find?_eq_none.mp found (digitCount base fraction.den) (by simp)
      exact absurd (decide_eq_true enough) missed
  | some shift =>
      obtain ⟨reached, -, earlier⟩ := List.find?_range_eq_some.mp found
      have place : fraction.place base = 1 - (shift : Int) := by
        rw [Fraction.place, if_neg small, found]
        rfl
      cases shift with
      | zero =>
          exfalso
          apply small
          simpa [atLeast] using reached
      | succ shift =>
          have notYet := earlier shift (Nat.lt_succ_self _)
          simp only [Nat.pow_eq, decide_eq_true_eq, Bool.not_eq_true', decide_eq_false_iff_not,
            Nat.not_le] at reached notYet
          have before : fraction.place base - 1 = -((shift + 1 : Nat) : Int) := by omega
          have after : fraction.place base = -(shift : Int) := by omega
          constructor
          · rw [before, zpow_neg, zpow_natCast, ← one_div, value,
              div_le_div_iff₀ (by positivity) denPos, one_mul]
            exact_mod_cast reached
          · rw [after, zpow_neg, zpow_natCast, ← one_div, value,
              div_lt_div_iff₀ denPos (by positivity), one_mul]
            exact_mod_cast notYet

/-- A positive fraction lies between the powers of its place and of the one before. -/
theorem place_bounds (base_gt : 1 < base) (pos : 0 < fraction.den) (nonzero : fraction.num ≠ 0)
    : (base : ℚ) ^ (fraction.place base - 1) ≤ fraction.value
      ∧ fraction.value < (base : ℚ) ^ fraction.place base := by
  by_cases large : fraction.atLeast 1
  · exact place_bounds_of_atLeast base_gt pos large
  · exact place_bounds_of_not_atLeast base_gt pos nonzero large

/-- The place of a positive fraction is one more than the logarithm of its value. -/
theorem place_eq_log (base_gt : 1 < base) (pos : 0 < fraction.den) (nonzero : fraction.num ≠ 0)
    : fraction.place base = Int.log base fraction.value + 1 := by
  have valuePos := (value_pos_iff pos).mpr nonzero
  obtain ⟨low, high⟩ := place_bounds base_gt pos nonzero
  have notBelow := (Int.zpow_le_iff_le_log base_gt valuePos).mp low
  have notAbove := (Int.lt_zpow_iff_log_lt base_gt valuePos).mp high
  omega

/-- The place is found by two neighbouring powers with the value between them. -/
theorem place_eq_of_bounds (base_gt : 1 < base) (pos : 0 < fraction.den) {exponent : Int}
    (low : (base : ℚ) ^ exponent ≤ fraction.value)
    (high : fraction.value < (base : ℚ) ^ (exponent + 1))
    : fraction.place base = exponent + 1 := by
  have basePos : (0 : ℚ) < base := by exact_mod_cast Nat.zero_lt_of_lt base_gt
  have valuePos : 0 < fraction.value := lt_of_lt_of_le (zpow_pos basePos exponent) low
  have notBelow := (Int.zpow_le_iff_le_log base_gt valuePos).mp low
  have notAbove := (Int.lt_zpow_iff_log_lt base_gt valuePos).mp high
  have log := place_eq_log base_gt pos ((value_pos_iff pos).mp valuePos)
  omega

/-- A power of the base moves the place. -/
theorem place_scale (base_gt : 1 < base) (pos : 0 < fraction.den) (nonzero : fraction.num ≠ 0)
    (exponent : Int)
    : (fraction.scale base exponent).place base = fraction.place base + exponent := by
  have basePos : (0 : ℚ) < base := by exact_mod_cast Nat.zero_lt_of_lt base_gt
  have powerPos : (0 : ℚ) < (base : ℚ) ^ exponent := zpow_pos basePos exponent
  have next : fraction.place base + exponent = fraction.place base - 1 + exponent + 1 := by omega
  obtain ⟨low, high⟩ := place_bounds base_gt pos nonzero
  rw [next]
  apply place_eq_of_bounds base_gt (den_scale_pos pos (Nat.zero_lt_of_lt base_gt) exponent)
  · rw [value_scale _ (Nat.zero_lt_of_lt base_gt), zpow_add₀ basePos.ne']
    exact mul_le_mul_of_nonneg_right low powerPos.le
  · rw [← next, value_scale _ (Nat.zero_lt_of_lt base_gt), zpow_add₀ basePos.ne']
    exact mul_lt_mul_of_pos_right high powerPos

end Fraction

end Bytewise

import Mathlib.Tactic.Linarith
import Bytewise.Proofs.Decimal.Value

/-! Rounding a fraction to an integer. It moves the fraction by at most a half, so that no integer is
closer and none is crossed; with halves going up it is a single division.
-/

namespace Bytewise

-----------------------------------------------------------------------------------------
-- Rounded quotients
-----------------------------------------------------------------------------------------

/-- Twice a rounded quotient differs from twice the exact one by at most one. -/
theorem roundDiv_bounds (tie : Tie) (num : Nat) {den : Nat} (pos : 0 < den)
    : 2 * num ≤ (2 * roundDiv tie num den + 1) * den
      ∧ 2 * roundDiv tie num den * den ≤ 2 * num + den := by
  have division := Nat.div_add_mod num den
  have less := Nat.mod_lt num pos
  rcases roundDiv_half tie num den with ⟨down, below⟩ | ⟨up, above⟩
  · rw [down, Nat.add_mul, Nat.mul_assoc, Nat.mul_comm (num / den)]
    omega
  · rw [up, Nat.add_mul, Nat.mul_assoc, Nat.add_mul, Nat.mul_comm (num / den)]
    omega

/-- Where halves go up, the half above a rounded quotient is not reached. -/
theorem lt_roundDiv_awayFromZero (num : Nat) {den : Nat} (pos : 0 < den)
    : 2 * num < (2 * roundDiv .awayFromZero num den + 1) * den := by
  have division := Nat.div_add_mod num den
  have less := Nat.mod_lt num pos
  by_cases below : 2 * (num % den) < den
  · have down : roundDiv .awayFromZero num den = num / den := if_pos below
    rw [down, Nat.add_mul, Nat.mul_assoc, Nat.mul_comm (num / den)]
    omega
  · have up : roundDiv .awayFromZero num den = num / den + 1 := by
      simp only [roundDiv, if_neg below, ite_self]
    rw [up, Nat.add_mul, Nat.mul_assoc, Nat.add_mul, Nat.mul_comm (num / den)]
    omega

theorem roundDiv_awayFromZero (num : Nat) {den : Nat} (pos : 0 < den)
    : roundDiv .awayFromZero num den = (2 * num + den) / (2 * den) := by
  have low := (roundDiv_bounds .awayFromZero num pos).2
  have high := lt_roundDiv_awayFromZero num pos
  symm
  apply Nat.div_eq_of_lt_le
  · linarith
  · linarith

-----------------------------------------------------------------------------------------
-- Closeness
-----------------------------------------------------------------------------------------

section

variable {result target bound : ℚ}

/-- What is closest to a target is not below anything that the target is not below. -/
theorem bound_le_of_closer (closer : |result - target| ≤ |bound - target|) (le : bound ≤ target)
    : bound ≤ result := by
  rw [abs_sub_comm bound, abs_of_nonneg (sub_nonneg.mpr le)] at closer
  linarith [neg_abs_le (result - target)]

/-- What is closest to a target is not above anything that the target is not above. -/
theorem le_bound_of_closer (closer : |result - target| ≤ |bound - target|) (le : target ≤ bound)
    : result ≤ bound := by
  rw [abs_of_nonneg (sub_nonneg.mpr le)] at closer
  linarith [le_abs_self (result - target)]

end

namespace Fraction

variable {fraction : Fraction} {base : Nat}

-----------------------------------------------------------------------------------------
-- Rounded fractions
-----------------------------------------------------------------------------------------

theorem value_mul_den (pos : 0 < fraction.den)
    : fraction.value * fraction.den = fraction.num := by
  have nonzero : (fraction.den : ℚ) ≠ 0 := by exact_mod_cast pos.ne'
  exact div_mul_cancel₀ _ nonzero

/-- A fraction is moved by at most a half. -/
theorem abs_round_sub_value_le (pos : 0 < fraction.den) (tie : Tie)
    : |(fraction.round tie : ℚ) - fraction.value| ≤ 1 / 2 := by
  have denPos : (0 : ℚ) < fraction.den := by exact_mod_cast pos
  obtain ⟨low, high⟩ := roundDiv_bounds tie fraction.num pos
  have lower : 2 * fraction.value ≤ 2 * (fraction.round tie : ℚ) + 1 := by
    apply le_of_mul_le_mul_right _ denPos
    rw [mul_assoc, value_mul_den pos]
    exact_mod_cast low
  have upper : 2 * (fraction.round tie : ℚ) ≤ 2 * fraction.value + 1 := by
    apply le_of_mul_le_mul_right _ denPos
    rw [add_mul, mul_assoc 2 fraction.value, value_mul_den pos, one_mul]
    exact_mod_cast high
  rw [abs_le]
  constructor
  · linarith
  · linarith

/-- No integer is closer to a fraction than its rounding; witness: any other one is at least one
away from it, of which the fraction takes up at most a half.
-/
theorem abs_round_sub_value_le_abs_sub (pos : 0 < fraction.den) (tie : Tie) (number : Int)
    : |(fraction.round tie : ℚ) - fraction.value| ≤ |(number : ℚ) - fraction.value| := by
  by_cases same : (fraction.round tie : Int) = number
  · rw [← same, Int.cast_natCast]
  · have apart : (1 : ℚ) ≤ |(fraction.round tie : ℚ) - number| := by
      exact_mod_cast Int.one_le_abs (sub_ne_zero.mpr same)
    have between := abs_sub_le (fraction.round tie : ℚ) fraction.value number
    rw [abs_sub_comm fraction.value] at between
    linarith [abs_round_sub_value_le pos tie]

/-- Where halves go up, a fraction is rounded to the integer that is at most a half above it and
less than a half below it.
-/
theorem round_awayFromZero_eq (pos : 0 < fraction.den) {number : Nat}
    (low : (number : ℚ) - 1 / 2 ≤ fraction.value)
    (high : fraction.value < number + 1 / 2)
    : fraction.round .awayFromZero = number := by
  have denPos : (0 : ℚ) < fraction.den := by exact_mod_cast pos
  have lower := mul_le_mul_of_nonneg_right low denPos.le
  have upper := mul_lt_mul_of_pos_right high denPos
  rw [value_mul_den pos] at lower upper
  have least : (number : ℚ) * (2 * fraction.den) ≤ 2 * fraction.num + fraction.den := by
    linarith
  have greatest : (2 * fraction.num + fraction.den : ℚ) < (number + 1) * (2 * fraction.den) := by
    linarith
  rw [round, roundDiv_awayFromZero _ pos]
  apply Nat.div_eq_of_lt_le
  · exact_mod_cast least
  · exact_mod_cast greatest

-----------------------------------------------------------------------------------------
-- Multiples of a power
-----------------------------------------------------------------------------------------

/-- A fraction is the multiple of a power that its scaling by the power tells. -/
theorem value_eq_scale_mul (fraction : Fraction) (basePos : 0 < base) (exponent : Int)
    : fraction.value = (fraction.scale base (-exponent)).value * (base : ℚ) ^ exponent := by
  have nonzero : (base : ℚ) ≠ 0 := by exact_mod_cast basePos.ne'
  rw [value_scale _ basePos, mul_assoc, ← zpow_add₀ nonzero, Int.add_left_neg, zpow_zero, mul_one]

/-- Rounding to a multiple of a power moves a fraction by at most half of the power. -/
theorem abs_multiple_sub_value_le (pos : 0 < fraction.den) (basePos : 0 < base) (tie : Tie)
    (exponent : Int)
    : |(fraction.scale base (-exponent)).round tie * (base : ℚ) ^ exponent - fraction.value|
      ≤ (base : ℚ) ^ exponent / 2 := by
  have powerPos : (0 : ℚ) < (base : ℚ) ^ exponent := zpow_pos (by exact_mod_cast basePos) _
  have error := abs_round_sub_value_le (den_scale_pos pos basePos (-exponent)) tie
  rw [fraction.value_eq_scale_mul basePos exponent, ← sub_mul, abs_mul, abs_of_pos powerPos]
  linarith [mul_le_mul_of_nonneg_right error powerPos.le]

/-- No multiple of a power is closer to a fraction than the one it is rounded to. -/
theorem abs_multiple_sub_value_le_abs_sub (pos : 0 < fraction.den) (basePos : 0 < base)
    (tie : Tie) (exponent factor : Int)
    : |(fraction.scale base (-exponent)).round tie * (base : ℚ) ^ exponent - fraction.value|
      ≤ |factor * (base : ℚ) ^ exponent - fraction.value| := by
  have powerPos : (0 : ℚ) < (base : ℚ) ^ exponent := zpow_pos (by exact_mod_cast basePos) _
  have closest :=
    abs_round_sub_value_le_abs_sub (den_scale_pos pos basePos (-exponent)) tie factor
  rw [fraction.value_eq_scale_mul basePos exponent, ← sub_mul, ← sub_mul, abs_mul, abs_mul,
    abs_of_pos powerPos]
  exact mul_le_mul_of_nonneg_right closest powerPos.le

theorem place_le_of_value_lt (base_gt : 1 < base) (pos : 0 < fraction.den)
    (nonzero : fraction.num ≠ 0) {limit : Int} (below : fraction.value < (base : ℚ) ^ limit)
    : fraction.place base ≤ limit := by
  have one_lt : (1 : ℚ) < base := by exact_mod_cast base_gt
  have powers := lt_of_le_of_lt (place_bounds base_gt pos nonzero).1 below
  have exponents := (zpow_lt_zpow_iff_right₀ one_lt).mp powers
  omega

end Fraction

end Bytewise

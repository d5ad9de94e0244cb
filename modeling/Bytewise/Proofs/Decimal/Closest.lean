import Bytewise.Proofs.Decimal.Nearest
import Bytewise.Proofs.Decimal.Rounding

/-! The number that is found for a fraction is the closest one to it of the whole format. -/

namespace Bytewise.Binary64

/-- What a number stands for, with its sign. -/
def value (number : Binary64) : ℚ :=
  (if number.negative then -1 else 1) * number.magnitude.value

/-- No number of the format is closer to a target. -/
structure IsNearest (number : Binary64) (target : ℚ) : Prop where
  normal : number.IsNormal
  closest
    : ∀ other : Binary64,
        other.IsNormal → |number.value - target| ≤ |other.value - target|

theorem abs_value (number : Binary64)
    : |number.value| = number.significand * (2 : ℚ) ^ number.exponent := by
  have nonnegative : (0 : ℚ) ≤ number.significand * (2 : ℚ) ^ number.exponent :=
    mul_nonneg (Nat.cast_nonneg _) (zpow_pos (by norm_num) _).le
  rw [value, value_magnitude]
  split
  · rw [neg_one_mul, abs_neg, abs_of_nonneg nonnegative]
  · rw [one_mul, abs_of_nonneg nonnegative]

theorem value_nonneg {number : Binary64} (positive : number.negative = false)
    : 0 ≤ number.value := by
  rw [value, positive, value_magnitude, if_neg Bool.false_ne_true, one_mul]
  exact mul_nonneg (Nat.cast_nonneg _) (zpow_pos (by norm_num) _).le

/-- A number of the format is a multiple of a power of two, or is no more than the least number with
53 bits above that power. Witness: fewer than 53 bits are missing between the power and a number
with a smaller exponent.
-/
theorem value_multiple_or_small {number : Binary64} (normal : number.IsNormal) (unit : Int)
    : (∃ factor : Int, number.value = factor * (2 : ℚ) ^ unit)
      ∨ |number.value| ≤ 2 ^ 52 * (2 : ℚ) ^ unit := by
  rcases normal with ⟨zero, -⟩ | ⟨-, high⟩
  · refine Or.inl ⟨0, ?_⟩
    rw [Int.cast_zero, zero_mul, ← abs_eq_zero, abs_value, zero, Nat.cast_zero, zero_mul]
  · by_cases coarse : unit ≤ number.exponent
    · obtain ⟨shift, difference⟩ := Int.eq_ofNat_of_zero_le (Int.sub_nonneg_of_le coarse)
      have sum : number.exponent = shift + unit := by omega
      refine Or.inl
        ⟨(if number.negative then -1 else 1) * (number.significand * 2 ^ shift), ?_⟩
      rw [value, value_magnitude, sum, zpow_add₀ (by norm_num), zpow_natCast]
      push_cast
      ring
    · right
      have fewer : (number.significand : ℚ) ≤ 2 ^ 53 := by exact_mod_cast high.le
      have finer : (2 : ℚ) ^ number.exponent ≤ 2 ^ (unit - 1) :=
        zpow_le_zpow_right₀ (by norm_num) (by omega)
      have double : (2 : ℚ) ^ (unit - 1) * 2 = 2 ^ unit := by
        rw [← zpow_add_one₀ (by norm_num), Int.sub_add_cancel]
      calc |number.value|
        _ = number.significand * (2 : ℚ) ^ number.exponent := abs_value number
        _ ≤ 2 ^ 53 * (2 : ℚ) ^ (unit - 1) :=
          mul_le_mul fewer finer (zpow_pos (by norm_num) _).le (by norm_num)
        _ = 2 ^ 52 * (2 : ℚ) ^ unit := by
          rw [← double]
          ring

variable {fraction : Fraction}

/-- The number found for a positive fraction is a rounded multiple of the last bit's power, also
where the rounding gives one bit more.
-/
theorem value_nearest (nonzero : fraction.num ≠ 0)
    : (nearest false fraction).value
      = (fraction.scale 2 (-(fraction.place 2 - 53))).round .toEven
        * (2 : ℚ) ^ (fraction.place 2 - 53) := by
  have limit : (significandLimit : ℚ) = (significandLimit / 2 : Nat) * 2 := by
    norm_num [significandLimit]
  rw [nearest, if_neg nonzero]
  dsimp only [precision, Nat.cast_ofNat]
  split
  · next carry =>
      rw [carry, value, value_magnitude, if_neg Bool.false_ne_true, one_mul, limit,
        zpow_add_one₀ (by norm_num)]
      ring
  · rw [value, value_magnitude, if_neg Bool.false_ne_true, one_mul]

/-- Of the multiples of the last bit's power, the number found is the closest. -/
theorem nearest_closest_multiple (pos : 0 < fraction.den) (nonzero : fraction.num ≠ 0)
    (factor : Int)
    : |(nearest false fraction).value - fraction.value|
      ≤ |factor * (2 : ℚ) ^ (fraction.place 2 - 53) - fraction.value| := by
  rw [value_nearest nonzero]
  exact Fraction.abs_multiple_sub_value_le_abs_sub pos (show 0 < 2 by decide) .toEven _ factor

/-- A positive fraction is not below the least multiple of the last bit's power with 53 bits. -/
theorem least_multiple_le (pos : 0 < fraction.den) (nonzero : fraction.num ≠ 0)
    : 2 ^ 52 * (2 : ℚ) ^ (fraction.place 2 - 53) ≤ fraction.value := by
  have unitPos : (0 : ℚ) < 2 ^ (fraction.place 2 - 53) := zpow_pos (by norm_num) _
  have scaled := fraction.value_eq_scale_mul (show 0 < 2 by decide) (fraction.place 2 - 53)
  rw [Nat.cast_ofNat] at scaled
  rw [scaled]
  exact mul_le_mul_of_nonneg_right (scaled_bounds pos nonzero).1 unitPos.le

/-- The number found for a fraction is the closest one of the format. Witness: it is the closest of
the multiples of its last bit's power, and a number that is none of them is not above the least
multiple with 53 bits, which lies between that number and the fraction.
-/
theorem nearest_isNearest (pos : 0 < fraction.den)
    : (nearest false fraction).IsNearest fraction.value := by
  refine ⟨nearest_isNormal pos false, ?_⟩
  intro other normal
  by_cases zero : fraction.num = 0
  · have target : fraction.value = 0 := by rw [Fraction.value, zero, Nat.cast_zero, zero_div]
    have found : (nearest false fraction).value = 0 := by
      rw [nearest, if_pos zero, ← abs_eq_zero, abs_value, Nat.cast_zero, zero_mul]
    rw [target, found, sub_zero, abs_zero]
    exact abs_nonneg _
  · rcases value_multiple_or_small normal (fraction.place 2 - 53) with ⟨factor, multiple⟩ | small
    · rw [multiple]
      exact nearest_closest_multiple pos zero factor
    · have least := least_multiple_le pos zero
      have below := le_trans (le_abs_self _) small
      have closer := nearest_closest_multiple pos zero (2 ^ 52)
      rw [Int.cast_pow, Int.cast_ofNat] at closer
      calc |(nearest false fraction).value - fraction.value|
        _ ≤ |2 ^ 52 * (2 : ℚ) ^ (fraction.place 2 - 53) - fraction.value| := closer
        _ = fraction.value - 2 ^ 52 * (2 : ℚ) ^ (fraction.place 2 - 53) := by
          rw [abs_sub_comm, abs_of_nonneg (sub_nonneg.mpr least)]
        _ ≤ fraction.value - other.value := by linarith
        _ ≤ |other.value - fraction.value| := by
          rw [abs_sub_comm]
          exact le_abs_self _

/-- The nearest number is not above a number of the format that the target is not above. -/
theorem IsNearest.le {number other : Binary64} {target : ℚ}
    (nearest : number.IsNearest target) (normal : other.IsNormal)
    (le : target ≤ other.value)
    : number.value ≤ other.value :=
  le_bound_of_closer (nearest.closest other normal) le

end Bytewise.Binary64

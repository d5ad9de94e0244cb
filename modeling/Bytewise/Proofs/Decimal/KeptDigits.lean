import Bytewise.Proofs.Decimal.ReadBack
import Bytewise.Proofs.Decimal.Rounding
import Bytewise.Similarity

/-! Results of decimal arithmetic, which keeps a number of digits. A result is off by at most half a
unit of its last digit, and does not cross what the digits can tell exactly.
-/

namespace Bytewise.Decimal

variable {fraction : Fraction} {digits : Nat} {limit exponent : Int}

-----------------------------------------------------------------------------------------
-- Rounding to digits
-----------------------------------------------------------------------------------------

/-- A rounded fraction is a multiple of its last digit's power. -/
theorem value_ofFraction (fraction : Fraction) (digits : Nat)
    : (ofFraction fraction digits).magnitude.value
      = (fraction.scale 10 (-(fraction.place 10 - digits))).round .toEven
        * (10 : ℚ) ^ (fraction.place 10 - digits) :=
  value_magnitude _

theorem unit_pos (exponent : Int) : (0 : ℚ) < 10 ^ exponent := zpow_pos (by norm_num) exponent

/-- Rounding moves a fraction by at most half a unit of its last digit. -/
theorem abs_value_ofFraction_sub_le (pos : 0 < fraction.den) (digits : Nat)
    : |(ofFraction fraction digits).magnitude.value - fraction.value|
      ≤ (10 : ℚ) ^ (fraction.place 10 - digits) / 2 := by
  rw [value_ofFraction]
  exact Fraction.abs_multiple_sub_value_le pos (show 0 < 10 by decide) .toEven _

/-- A multiple of a power of ten is one of every smaller power too. -/
theorem exists_multiple {unit : Int} (coarse : unit ≤ exponent) (factor : Nat)
    : ∃ number : Nat, factor * (10 : ℚ) ^ exponent = number * (10 : ℚ) ^ unit := by
  obtain ⟨shift, difference⟩ := Int.eq_ofNat_of_zero_le (Int.sub_nonneg_of_le coarse)
  have sum : exponent = shift + unit := by omega
  refine ⟨factor * 10 ^ shift, ?_⟩
  rw [sum, zpow_add₀ (by norm_num), zpow_natCast]
  push_cast
  ring

/-- No multiple of a power that is not finer than the last digit is closer to a fraction than the
fraction rounded.
-/
theorem abs_value_ofFraction_sub_le_abs_sub (pos : 0 < fraction.den)
    (coarse : fraction.place 10 - digits ≤ exponent) (factor : Nat)
    : |(ofFraction fraction digits).magnitude.value - fraction.value|
      ≤ |factor * (10 : ℚ) ^ exponent - fraction.value| := by
  obtain ⟨number, multiple⟩ := exists_multiple coarse factor
  rw [multiple, value_ofFraction]
  exact Fraction.abs_multiple_sub_value_le_abs_sub pos (show 0 < 10 by decide) .toEven _ number

-----------------------------------------------------------------------------------------
-- Results of operations
-----------------------------------------------------------------------------------------

/-- A result has its exact value, or is that value rounded, with its first digit not before a place
that the value is below.
-/
theorem ofExact_cases (pos : 0 < fraction.den) (below : fraction.value < (10 : ℚ) ^ limit)
    : (ofExact fraction).magnitude.value = fraction.value
      ∨ ofExact fraction = ofFraction fraction workingDigits ∧ fraction.place 10 ≤ limit := by
  by_cases zero : fraction.num = 0
  · left
    rw [ofExact, if_pos zero, value_magnitude, Fraction.value, zero]
    simp
  · right
    rw [ofExact, if_neg zero]
    exact ⟨rfl, Fraction.place_le_of_value_lt (by decide) pos zero (by exact_mod_cast below)⟩

theorem abs_value_ofExact_sub_le (pos : 0 < fraction.den)
    (below : fraction.value < (10 : ℚ) ^ limit)
    : |(ofExact fraction).magnitude.value - fraction.value|
      ≤ (10 : ℚ) ^ (limit - workingDigits) / 2 := by
  rcases ofExact_cases pos below with exact | ⟨rounded, place⟩
  · rw [exact, sub_self, abs_zero]
    exact (half_pos (unit_pos _)).le
  · have units : (10 : ℚ) ^ (fraction.place 10 - (workingDigits : Int))
        ≤ 10 ^ (limit - (workingDigits : Int)) :=
      zpow_le_zpow_right₀ (by norm_num) (by omega)
    rw [rounded]
    linarith [abs_value_ofFraction_sub_le pos workingDigits]

/-- No multiple of a power that the digits reach down to is closer to the exact value than a result.
-/
theorem abs_value_ofExact_sub_le_abs_sub (pos : 0 < fraction.den)
    (below : fraction.value < (10 : ℚ) ^ (exponent + workingDigits)) (factor : Nat)
    : |(ofExact fraction).magnitude.value - fraction.value|
      ≤ |factor * (10 : ℚ) ^ exponent - fraction.value| := by
  rcases ofExact_cases pos below with exact | ⟨rounded, place⟩
  · rw [exact, sub_self, abs_zero]
    exact abs_nonneg _
  · rw [rounded]
    exact abs_value_ofFraction_sub_le_abs_sub pos (by omega) factor

/-- An integer of no more digits than are kept is its own result; witness: it is a multiple of one,
and none is closer than the result.
-/
theorem value_ofExact_ofNat {number : Nat} (small : number < 10 ^ workingDigits)
    : (ofExact (.ofNat number)).magnitude.value = number := by
  have below : (Fraction.ofNat number).value < (10 : ℚ) ^ ((0 : Int) + workingDigits) := by
    rw [Fraction.value_ofNat, zero_add, zpow_natCast]
    exact_mod_cast small
  have closest := abs_value_ofExact_sub_le_abs_sub Nat.one_pos below number
  rw [Fraction.value_ofNat, zpow_zero, mul_one, sub_self, abs_zero] at closest
  exact sub_eq_zero.mp (abs_nonpos_iff.mp closest)

/-- A result is above its exact value by less than the value over a power of ten, which has as many
zeros as digits are kept behind the first one.
-/
theorem value_ofExact_le_mul (pos : 0 < fraction.den)
    : (ofExact fraction).magnitude.value
      ≤ fraction.value * (1 + 1 / 10 ^ (workingDigits - 1)) := by
  by_cases zero : fraction.num = 0
  · rw [ofExact, if_pos zero, value_magnitude, Fraction.value, zero]
    simp
  · have error := (abs_le.mp (abs_value_ofFraction_sub_le pos workingDigits)).2
    have least := (Fraction.place_bounds (show 1 < 10 by decide) pos zero).1
    have unit : (10 : ℚ) ^ (fraction.place 10 - (workingDigits : Int))
        = (10 : ℚ) ^ (fraction.place 10 - 1) * (1 / 10 ^ (workingDigits - 1)) := by
      rw [one_div, ← zpow_natCast, ← zpow_neg, ← zpow_add₀ (by norm_num)]
      congr 1
      rw [workingDigits]
      omega
    have relativePos : (0 : ℚ) < 1 / 10 ^ (workingDigits - 1) := by positivity
    have relative := mul_le_mul_of_nonneg_right least relativePos.le
    rw [Nat.cast_ofNat, ← unit] at relative
    rw [ofExact, if_neg zero, mul_add, mul_one]
    linarith [unit_pos (fraction.place 10 - (workingDigits : Int))]

end Bytewise.Decimal

import Bytewise.Proofs.Decimal.Closest
import Bytewise.Proofs.Decimal.KeptDigits

/-! Rounding keeps the order of what is rounded, to integers, to a number of decimal digits and to the
numbers of the binary format. Where two fractions have the same last digit they are rounded to
multiples of one power; where they do not, a power that both results can tell lies between them.
-/

namespace Bytewise

section

variable {result other target otherTarget : ℚ}

/-- A target is not below the midpoint of what is closest to it and of anything smaller. -/
theorem midpoint_le_of_closer (closer : |result - target| ≤ |other - target|)
    (less : other < result)
    : other + result ≤ 2 * target := by
  by_contra above
  rw [not_le] at above
  have behind : 0 < result - target := by linarith
  rw [abs_of_pos behind] at closer
  rcases abs_cases (other - target) with ⟨distance, -⟩ | ⟨distance, -⟩
  · linarith
  · linarith

/-- A target is not above the midpoint of what is closest to it and of anything larger. -/
theorem le_midpoint_of_closer (closer : |result - target| ≤ |other - target|)
    (less : result < other)
    : 2 * target ≤ result + other := by
  by_contra below
  rw [not_le] at below
  have before : result - target < 0 := by linarith
  rw [abs_of_neg before] at closer
  rcases abs_cases (other - target) with ⟨distance, -⟩ | ⟨distance, -⟩
  · linarith
  · linarith

/-- What is closest to a target is not above what is closest to a larger one. Witness: otherwise the
midpoint of both would be at most the smaller target and at least the larger one.
-/
theorem le_of_closer (less : target < otherTarget)
    (closer : |result - target| ≤ |other - target|)
    (otherCloser : |other - otherTarget| ≤ |result - otherTarget|)
    : result ≤ other := by
  by_contra above
  rw [not_le] at above
  have low := midpoint_le_of_closer closer above
  have high := le_midpoint_of_closer otherCloser above
  linarith

end

namespace Fraction

variable {fraction other : Fraction} {base : Nat}

theorem round_le_round (pos : 0 < fraction.den) (otherPos : 0 < other.den)
    (le : fraction.value ≤ other.value) (tie : Tie)
    : fraction.round tie ≤ other.round tie := by
  rcases le.lt_or_eq with less | same
  · have closer := abs_round_sub_value_le_abs_sub pos tie (other.round tie)
    have otherCloser := abs_round_sub_value_le_abs_sub otherPos tie (fraction.round tie)
    rw [Int.cast_natCast] at closer otherCloser
    exact_mod_cast le_of_closer less closer otherCloser
  · exact (round_congr pos otherPos same tie).le

theorem value_scale_le_value_scale (le : fraction.value ≤ other.value) (basePos : 0 < base)
    (exponent : Int)
    : (fraction.scale base exponent).value ≤ (other.scale base exponent).value := by
  rw [value_scale _ basePos, value_scale _ basePos]
  exact mul_le_mul_of_nonneg_right le (zpow_nonneg (Nat.cast_nonneg base) exponent)

theorem place_le_place (base_gt : 1 < base) (pos : 0 < fraction.den)
    (nonzero : fraction.num ≠ 0) (otherPos : 0 < other.den) (otherNonzero : other.num ≠ 0)
    (le : fraction.value ≤ other.value)
    : fraction.place base ≤ other.place base :=
  place_le_of_value_lt base_gt pos nonzero
    (lt_of_le_of_lt le (place_bounds base_gt otherPos otherNonzero).2)

end Fraction

-----------------------------------------------------------------------------------------
-- Decimal digits
-----------------------------------------------------------------------------------------

namespace Decimal

variable {fraction other : Fraction} {digits : Nat}

/-- Rounding does not bring a fraction above the power behind its first digit. -/
theorem value_ofFraction_le_power (pos : 0 < fraction.den) (nonzero : fraction.num ≠ 0)
    (digits : Nat)
    : (ofFraction fraction digits).magnitude.value ≤ (10 : ℚ) ^ fraction.place 10 := by
  have below := (Fraction.place_bounds (show 1 < 10 by decide) pos nonzero).2
  have closer := abs_value_ofFraction_sub_le_abs_sub pos
    (show fraction.place 10 - (digits : Int) ≤ fraction.place 10 by omega) 1
  rw [Nat.cast_one, one_mul] at closer
  rw [Nat.cast_ofNat] at below
  exact le_bound_of_closer closer below.le

/-- Rounding does not bring a fraction below the power of its first digit, unless there is not one
digit to round to.
-/
theorem power_le_value_ofFraction (pos : 0 < fraction.den) (nonzero : fraction.num ≠ 0)
    (digitsPos : 0 < digits)
    : (10 : ℚ) ^ (fraction.place 10 - 1) ≤ (ofFraction fraction digits).magnitude.value := by
  have least := (Fraction.place_bounds (show 1 < 10 by decide) pos nonzero).1
  have closer := abs_value_ofFraction_sub_le_abs_sub pos
    (show fraction.place 10 - (digits : Int) ≤ fraction.place 10 - 1 by omega) 1
  rw [Nat.cast_one, one_mul] at closer
  rw [Nat.cast_ofNat] at least
  exact bound_le_of_closer closer least

/-- Rounding to digits keeps the order, by whether the first digits stand at the same place. -/
theorem value_ofFraction_le_value_ofFraction (pos : 0 < fraction.den)
    (nonzero : fraction.num ≠ 0) (otherPos : 0 < other.den) (otherNonzero : other.num ≠ 0)
    (digitsPos : 0 < digits) (le : fraction.value ≤ other.value)
    : (ofFraction fraction digits).magnitude.value
      ≤ (ofFraction other digits).magnitude.value := by
  have places :=
    Fraction.place_le_place (show 1 < 10 by decide) pos nonzero otherPos otherNonzero le
  rcases places.lt_or_eq with before | same
  · calc (ofFraction fraction digits).magnitude.value
      _ ≤ (10 : ℚ) ^ fraction.place 10 := value_ofFraction_le_power pos nonzero digits
      _ ≤ (10 : ℚ) ^ (other.place 10 - 1) := zpow_le_zpow_right₀ (by norm_num) (by omega)
      _ ≤ (ofFraction other digits).magnitude.value :=
        power_le_value_ofFraction otherPos otherNonzero digitsPos
  · have rounded := Fraction.round_le_round
      (Fraction.den_scale_pos pos (show 0 < 10 by decide) _)
      (Fraction.den_scale_pos otherPos (show 0 < 10 by decide) _)
      (Fraction.value_scale_le_value_scale le (show 0 < 10 by decide)
        (-(other.place 10 - digits)))
      .toEven
    rw [value_ofFraction, value_ofFraction, same]
    exact mul_le_mul_of_nonneg_right (Nat.cast_le.mpr rounded) (unit_pos _).le

/-- Results are in the order of their exact values. -/
theorem value_ofExact_le_value_ofExact (pos : 0 < fraction.den) (otherPos : 0 < other.den)
    (le : fraction.value ≤ other.value)
    : (ofExact fraction).magnitude.value ≤ (ofExact other).magnitude.value := by
  by_cases zero : fraction.num = 0
  · rw [ofExact, if_pos zero, value_magnitude, Nat.cast_zero, zero_mul]
    exact Fraction.value_nonneg _
  · have otherNonzero : other.num ≠ 0 :=
      (Fraction.value_pos_iff otherPos).mp
        (lt_of_lt_of_le ((Fraction.value_pos_iff pos).mpr zero) le)
    rw [ofExact, if_neg zero, ofExact, if_neg otherNonzero]
    exact value_ofFraction_le_value_ofFraction pos zero otherPos otherNonzero (by decide) le

end Decimal

-----------------------------------------------------------------------------------------
-- Binary numbers
-----------------------------------------------------------------------------------------

namespace Binary64

variable {fraction other : Fraction}

/-- The nearest numbers to two targets are in the order of the targets. -/
theorem IsNearest.le_of_lt {number otherNumber : Binary64} {target otherTarget : ℚ}
    (nearest : number.IsNearest target) (otherNearest : otherNumber.IsNearest otherTarget)
    (less : target < otherTarget)
    : number.value ≤ otherNumber.value :=
  le_of_closer less (nearest.closest otherNumber otherNearest.normal)
    (otherNearest.closest number nearest.normal)

theorem value_nearest_le_value_nearest (pos : 0 < fraction.den) (otherPos : 0 < other.den)
    (le : fraction.value ≤ other.value)
    : (nearest false fraction).value ≤ (nearest false other).value := by
  rcases le.lt_or_eq with less | same
  · exact (nearest_isNearest pos).le_of_lt (nearest_isNearest otherPos) less
  · rw [nearest_congr pos otherPos same]

/-- The nearest number to a fraction with the sign turned is the nearest one turned. -/
theorem value_nearest_true (fraction : Fraction)
    : (nearest true fraction).value = -(nearest false fraction).value := by
  have magnitudes : (nearest true fraction).magnitude = (nearest false fraction).magnitude := by
    rw [nearest, nearest]
    dsimp only
    split_ifs <;> rfl
  rw [value, value, negative_nearest, negative_nearest, if_pos rfl, if_neg Bool.false_ne_true,
    magnitudes, neg_one_mul, one_mul]

end Binary64

end Bytewise

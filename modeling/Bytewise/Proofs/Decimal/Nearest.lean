import Bytewise.Proofs.Decimal.Value

/-! The numbers of the binary format, and the nearest of them to a fraction: it depends on the
fraction's value only, and a number of the format is the nearest one to itself.
-/

namespace Bytewise.Binary64

/-- A natural number is written without a sign. -/
theorem decide_natCast_neg (number : Nat) : decide ((number : Int) < 0) = false :=
  decide_eq_false (Int.natCast_nonneg number).not_gt

/-- Zero, or a significand of exactly 53 bits. -/
def IsNormal (number : Binary64) : Prop :=
  number.significand = 0 ∧ number.exponent = 0
  ∨ 2 ^ 52 ≤ number.significand ∧ number.significand < 2 ^ 53

variable {fraction other : Fraction}

theorem nearest_congr (pos : 0 < fraction.den) (otherPos : 0 < other.den)
    (same : fraction.value = other.value) (negative : Bool)
    : nearest negative fraction = nearest negative other := by
  have zeroTogether : fraction.num = 0 ↔ other.num = 0 := by
    have numPos := Fraction.value_pos_iff pos
    rw [same, Fraction.value_pos_iff otherPos] at numPos
    exact (not_iff_not.mp numPos).symm
  by_cases zero : fraction.num = 0
  · rw [nearest, if_pos zero, nearest, if_pos (zeroTogether.mp zero)]
  · have otherNonzero : other.num ≠ 0 := fun otherZero => zero (zeroTogether.mpr otherZero)
    have place : fraction.place 2 = other.place 2 := by
      rw [Fraction.place_eq_log (by decide) pos zero,
        Fraction.place_eq_log (by decide) otherPos otherNonzero, same]
    have rounded (exponent : Int)
        : (fraction.scale 2 exponent).round .toEven
          = (other.scale 2 exponent).round .toEven := by
      apply Fraction.round_congr (Fraction.den_scale_pos pos (by decide) _)
        (Fraction.den_scale_pos otherPos (by decide) _)
      rw [Fraction.value_scale _ (by decide), Fraction.value_scale _ (by decide), same]
    simp only [nearest, if_neg zero, if_neg otherNonzero, place, rounded]

/-- Scaled to the exponent that is chosen for it, a positive fraction has 53 bits before the
point.
-/
theorem scaled_bounds (pos : 0 < fraction.den) (nonzero : fraction.num ≠ 0)
    : (2 : ℚ) ^ 52 ≤ (fraction.scale 2 (-(fraction.place 2 - 53))).value
      ∧ (fraction.scale 2 (-(fraction.place 2 - 53))).value < (2 : ℚ) ^ 53 := by
  obtain ⟨low, high⟩ := Fraction.place_bounds (show 1 < 2 by decide) pos nonzero
  have shift (exponent : Int) (bits : Nat)
      (sum : exponent + -(fraction.place 2 - 53) = bits)
      : ((2 : Nat) : ℚ) ^ exponent * (2 : ℚ) ^ (-(fraction.place 2 - 53)) = (2 : ℚ) ^ bits := by
    rw [Nat.cast_ofNat, ← zpow_add₀ (by norm_num), sum, zpow_natCast]
  rw [Fraction.value_scale _ (by decide), Nat.cast_ofNat,
    ← shift (fraction.place 2 - 1) 52 (by omega), ← shift (fraction.place 2) 53 (by omega)]
  have factorPos : (0 : ℚ) < (2 : ℚ) ^ (-(fraction.place 2 - 53)) := zpow_pos (by norm_num) _
  exact ⟨mul_le_mul_of_nonneg_right low factorPos.le, mul_lt_mul_of_pos_right high factorPos⟩

/-- Rounding 53 bits gives 53 bits, or the least number with one more. -/
theorem rounded_bounds (pos : 0 < fraction.den) (nonzero : fraction.num ≠ 0)
    : 2 ^ 52 ≤ (fraction.scale 2 (-(fraction.place 2 - 53))).round .toEven
      ∧ (fraction.scale 2 (-(fraction.place 2 - 53))).round .toEven ≤ 2 ^ 53 := by
  have bounds := scaled_bounds pos nonzero
  have scaledPos := Fraction.den_scale_pos pos (show 0 < 2 by decide) (-(fraction.place 2 - 53))
  generalize fraction.scale 2 (-(fraction.place 2 - 53)) = scaled at bounds scaledPos ⊢
  have scaledDenPos : (0 : ℚ) < scaled.den := by exact_mod_cast scaledPos
  rw [Fraction.value, le_div_iff₀ scaledDenPos, div_lt_iff₀ scaledDenPos] at bounds
  have notBelow : 2 ^ 52 ≤ scaled.num / scaled.den :=
    (Nat.le_div_iff_mul_le scaledPos).mpr (by exact_mod_cast bounds.1)
  have notAbove : scaled.num / scaled.den < 2 ^ 53 :=
    (Nat.div_lt_iff_lt_mul scaledPos).mpr (by exact_mod_cast bounds.2)
  have around : scaled.round .toEven = scaled.num / scaled.den
      ∨ scaled.round .toEven = scaled.num / scaled.den + 1 := roundDiv_cases ..
  omega

/-- What is found for a fraction is a number of the format. -/
theorem nearest_isNormal (pos : 0 < fraction.den) (negative : Bool)
    : (nearest negative fraction).IsNormal := by
  by_cases zero : fraction.num = 0
  · rw [nearest, if_pos zero]
    exact Or.inl ⟨rfl, rfl⟩
  · obtain ⟨low, high⟩ := rounded_bounds pos zero
    rw [nearest, if_neg zero]
    dsimp only [precision, Nat.cast_ofNat]
    by_cases carry
        : (fraction.scale 2 (-(fraction.place 2 - 53))).round .toEven = significandLimit
    · have half : 2 ^ 52 ≤ significandLimit / 2 ∧ significandLimit / 2 < 2 ^ 53 := by decide
      rw [if_pos carry]
      exact Or.inr half
    · rw [if_neg carry]
      rw [significandLimit] at carry
      exact Or.inr ⟨low, Nat.lt_of_le_of_ne high carry⟩

theorem negative_nearest (negative : Bool) (fraction : Fraction)
    : (nearest negative fraction).negative = negative := by
  rw [nearest]
  dsimp only
  split_ifs <;> rfl

theorem value_magnitude (number : Binary64)
    : number.magnitude.value = number.significand * (2 : ℚ) ^ number.exponent := by
  rw [magnitude, Fraction.value_scale _ (by decide), Fraction.value_ofNat, Nat.cast_ofNat]

theorem den_magnitude_pos (number : Binary64) : 0 < number.magnitude.den :=
  Fraction.den_scale_pos Nat.one_pos (by decide) number.exponent

/-- A number with 53 bits is at least its first bit's power of two and below the next power. -/
theorem magnitude_bounds {number : Binary64} (low : 2 ^ 52 ≤ number.significand)
    (high : number.significand < 2 ^ 53)
    : (2 : ℚ) ^ (number.exponent + 52) ≤ number.magnitude.value
      ∧ number.magnitude.value < (2 : ℚ) ^ (number.exponent + 53) := by
  have factorPos : (0 : ℚ) < (2 : ℚ) ^ number.exponent := zpow_pos (by norm_num) _
  rw [value_magnitude, add_comm, zpow_add₀ (by norm_num), add_comm, zpow_add₀ (by norm_num)]
  constructor
  · exact mul_le_mul_of_nonneg_right (by exact_mod_cast low) factorPos.le
  · exact mul_lt_mul_of_pos_right (by exact_mod_cast high) factorPos

/-- The leading one of 53 bits stands 53 places before the exponent's. -/
theorem place_magnitude {number : Binary64} (low : 2 ^ 52 ≤ number.significand)
    (high : number.significand < 2 ^ 53)
    : number.magnitude.place 2 = number.exponent + 53 := by
  obtain ⟨atLeast, below⟩ := magnitude_bounds low high
  have next : number.exponent + 53 = number.exponent + 52 + 1 := by omega
  rw [next] at below ⊢
  exact Fraction.place_eq_of_bounds (by decide) number.den_magnitude_pos atLeast below

/-- A number of the format is the nearest one to itself. -/
theorem nearest_magnitude {number : Binary64} (normal : number.IsNormal)
    : nearest number.negative number.magnitude = number := by
  rcases normal with ⟨zero, zeroExponent⟩ | ⟨low, high⟩
  · obtain ⟨negative, significand, exponent⟩ := number
    dsimp only at zero zeroExponent
    subst zero zeroExponent
    rfl
  · have nonzero : number.magnitude.num ≠ 0 := by
      rw [← Fraction.value_pos_iff number.den_magnitude_pos, value_magnitude]
      have significandPos : (0 : ℚ) < number.significand := by exact_mod_cast by omega
      exact mul_pos significandPos (zpow_pos (by norm_num) _)
    have scaledValue : (number.magnitude.scale 2 (-number.exponent)).value
        = (Fraction.ofNat number.significand).value := by
      rw [Fraction.value_scale _ (by decide), value_magnitude, Fraction.value_ofNat,
        Nat.cast_ofNat, mul_assoc, ← zpow_add₀ (by norm_num), Int.add_right_neg, zpow_zero,
        mul_one]
    have rounded : (number.magnitude.scale 2 (-number.exponent)).round .toEven
        = number.significand := by
      rw [Fraction.round_congr (Fraction.den_scale_pos number.den_magnitude_pos (by decide) _)
        Nat.one_pos scaledValue]
      exact (congrArg (roundDiv .toEven · 1) (Nat.mul_one number.significand).symm).trans
        (roundDiv_mul_self .toEven number.significand Nat.one_pos)
    have exponentFound : number.magnitude.place 2 - (precision : Nat) = number.exponent := by
      rw [place_magnitude low high, precision]
      omega
    simp only [nearest, if_neg nonzero, exponentFound, rounded]
    rw [if_neg (by rw [significandLimit]; omega)]

-----------------------------------------------------------------------------------------
-- Powers of two
-----------------------------------------------------------------------------------------

/-- A number times a power of two. -/
def shifted (number : Binary64) (exponent : Int) : Binary64 :=
  if number.significand = 0 then
    number
  else
    { number with exponent := number.exponent + exponent }

/-- A power of two changes only the exponent of the nearest number; witness: the same integer is
rounded.
-/
theorem nearest_scale (pos : 0 < fraction.den) (negative : Bool) (exponent : Int)
    : nearest negative (fraction.scale 2 exponent)
      = (nearest negative fraction).shifted exponent := by
  by_cases zero : fraction.num = 0
  · have scaledZero : (fraction.scale 2 exponent).num = 0 := by
      rw [Fraction.scale, zero, Nat.zero_mul]
    rw [nearest, if_pos scaledZero, nearest, if_pos zero]
    rfl
  · have scaledNonzero : (fraction.scale 2 exponent).num ≠ 0 :=
      Nat.mul_ne_zero zero (Nat.pow_pos (show 0 < 2 by decide)).ne'
    have scaledPos := Fraction.den_scale_pos pos (show 0 < 2 by decide) exponent
    have moved : fraction.place 2 + exponent - 53 = fraction.place 2 - 53 + exponent := by omega
    have rounded
        : ((fraction.scale 2 exponent).scale 2 (-(fraction.place 2 + exponent - 53))).round
            .toEven
          = (fraction.scale 2 (-(fraction.place 2 - 53))).round .toEven := by
      apply Fraction.round_congr (Fraction.den_scale_pos scaledPos (by decide) _)
        (Fraction.den_scale_pos pos (by decide) _)
      rw [Fraction.value_scale _ (by decide), Fraction.value_scale _ (by decide),
        Fraction.value_scale _ (by decide), mul_assoc, ← zpow_add₀ (by norm_num)]
      congr 2
      omega
    have low := (rounded_bounds pos zero).1
    rw [nearest, if_neg scaledNonzero, nearest, if_neg zero]
    dsimp only [precision, Nat.cast_ofNat]
    rw [Fraction.place_scale (by decide) pos zero, rounded]
    split
    case isTrue carry =>
      rw [shifted, if_neg (show significandLimit / 2 ≠ 0 by decide)]
      exact congrArg (mk negative _) (by rw [moved]; exact Int.add_right_comm ..)
    case isFalse fits =>
      rw [shifted, if_neg (by dsimp only; omega)]
      exact congrArg (mk negative _) moved

/-- A rounding before a division by a power of two makes no difference. -/
theorem nearest_scale_nearest (pos : 0 < fraction.den) (negative : Bool) (exponent : Int)
    : nearest negative ((nearest negative fraction).magnitude.scale 2 exponent)
      = nearest negative (fraction.scale 2 exponent) := by
  have itself := nearest_magnitude (nearest_isNormal pos negative)
  rw [negative_nearest] at itself
  rw [nearest_scale (den_magnitude_pos _), itself, nearest_scale pos]

end Bytewise.Binary64

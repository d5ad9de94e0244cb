import Bytewise.Proofs.Decimal.KeptDigits
import Bytewise.Proofs.Decimal.TiesToEven

/-! Results of decimal arithmetic that are too large. They begin with the half between the greatest
result and the power of ten behind it, which is rounded to the power.
-/

namespace Bytewise.Decimal

variable {decimal : Decimal} {fraction : Fraction} {limit : Int}

/-- A decimal reaches a power of ten by the place of its first digit. -/
theorem power_le_value_iff (nonzero : decimal.coefficient ≠ 0) (limit : Int)
    : (10 : ℚ) ^ limit ≤ decimal.magnitude.value
      ↔ limit < decimal.exponent + digitCount 10 decimal.coefficient := by
  obtain ⟨low, high⟩ :=
    Fraction.digitCount_bounds (show 1 < 10 by decide) (Nat.pos_of_ne_zero nonzero)
  have countPos : 0 < digitCount 10 decimal.coefficient := Nat.length_toDigits_pos
  have unitPos := unit_pos decimal.exponent
  have least : (10 : ℚ) ^ (decimal.exponent + digitCount 10 decimal.coefficient - 1)
      ≤ decimal.magnitude.value := by
    have exponents : decimal.exponent + digitCount 10 decimal.coefficient - 1
        = (digitCount 10 decimal.coefficient - 1 : Nat) + decimal.exponent := by
      omega
    rw [value_magnitude, exponents, zpow_add₀ (by norm_num), zpow_natCast]
    exact mul_le_mul_of_nonneg_right (by exact_mod_cast low) unitPos.le
  have greatest : decimal.magnitude.value
      < (10 : ℚ) ^ (decimal.exponent + digitCount 10 decimal.coefficient) := by
    rw [value_magnitude, Int.add_comm, zpow_add₀ (by norm_num), zpow_natCast]
    exact mul_lt_mul_of_pos_right (by exact_mod_cast high) unitPos
  constructor
  · intro reached
    exact (zpow_lt_zpow_iff_right₀ (by norm_num)).mp (reached.trans_lt greatest)
  · intro before
    exact (zpow_le_zpow_right₀ (by norm_num) (by omega)).trans least

/-- The power of ten behind the greatest result. -/
theorem overflows_iff (decimal : Decimal)
    : decimal.overflows ↔ (10 : ℚ) ^ (exponentLimit + 1 : Int) ≤ decimal.magnitude.value := by
  by_cases zero : decimal.coefficient = 0
  · have value : decimal.magnitude.value = 0 := by rw [value_magnitude, zero]; simp
    rw [value, overflows]
    simp [zero, unit_pos]
  · rw [power_le_value_iff zero, overflows]
    simp only [ne_eq, zero, not_false_eq_true, decide_true, Bool.true_and, decide_eq_true_eq]
    omega

/-- A power of ten is its own result. -/
theorem exists_power (limit : Int)
    : ∃ power : Fraction,
        0 < power.den
        ∧ power.value = (10 : ℚ) ^ limit
        ∧ (ofExact power).magnitude.value = (10 : ℚ) ^ limit := by
  have pos : 0 < ((Fraction.ofNat 1).scale 10 limit).den :=
    Fraction.den_scale_pos Nat.one_pos (by decide) limit
  have value : ((Fraction.ofNat 1).scale 10 limit).value = (10 : ℚ) ^ limit := by
    rw [Fraction.value_scale _ (by decide), Fraction.value_ofNat, Nat.cast_one, one_mul,
      Nat.cast_ofNat]
  have below : ((Fraction.ofNat 1).scale 10 limit).value < (10 : ℚ) ^ (limit + workingDigits) := by
    rw [value]
    exact zpow_lt_zpow_right₀ (by norm_num) (by rw [workingDigits]; omega)
  have closest := abs_value_ofExact_sub_le_abs_sub pos below 1
  rw [value, Nat.cast_one, one_mul, sub_self, abs_zero] at closest
  exact ⟨_, pos, value, sub_eq_zero.mp (abs_nonpos_iff.mp closest)⟩

theorem power_le_value_ofExact (pos : 0 < fraction.den)
    (reached : (10 : ℚ) ^ limit ≤ fraction.value)
    : (10 : ℚ) ^ limit ≤ (ofExact fraction).magnitude.value := by
  obtain ⟨power, powerPos, value, same⟩ := exists_power limit
  rw [← same]
  exact value_ofExact_le_value_ofExact powerPos pos (value.trans_le reached)

theorem value_ofExact_le_power (pos : 0 < fraction.den)
    (within : fraction.value ≤ (10 : ℚ) ^ limit)
    : (ofExact fraction).magnitude.value ≤ (10 : ℚ) ^ limit := by
  obtain ⟨power, powerPos, value, same⟩ := exists_power limit
  rw [← same]
  exact value_ofExact_le_value_ofExact pos powerPos (within.trans_eq value.symm)

/-- A value with its first digit right before a power of ten is rounded to the power exactly from
the half before it on; witness: the digits of the power are an even number.
-/
theorem power_le_value_ofFraction_iff (pos : 0 < fraction.den)
    (place : fraction.place 10 = limit)
    : (10 : ℚ) ^ limit ≤ (ofFraction fraction workingDigits).magnitude.value
      ↔ (10 : ℚ) ^ limit - 10 ^ (limit - workingDigits) / 2 ≤ fraction.value := by
  have unitPos := unit_pos (limit - workingDigits)
  have power : (10 : ℚ) ^ limit = (10 ^ workingDigits : Int) * 10 ^ (limit - workingDigits) := by
    push_cast
    rw [← zpow_natCast, ← zpow_add₀ (by norm_num)]
    congr 1
    omega
  have rounds := Fraction.round_toEven
    (Fraction.den_scale_pos pos (show 0 < 10 by decide) (-(limit - workingDigits)))
  have reached := rounds.bound_le_iff (show Even (10 ^ workingDigits : Int) by decide)
  have scaled := fraction.value_eq_scale_mul (show 0 < 10 by decide) (limit - workingDigits)
  rw [Nat.cast_ofNat] at scaled
  have half (digits : ℚ)
      : digits * 10 ^ (limit - workingDigits) - 10 ^ (limit - workingDigits) / 2
        = (digits - 1 / 2) * 10 ^ (limit - workingDigits) := by
    ring
  rw [value_ofFraction, place, power, mul_le_mul_iff_left₀ unitPos, half, scaled,
    mul_le_mul_iff_left₀ unitPos, ← reached]
  norm_cast

/-- A result reaches a power of ten exactly from the half before the power on: a value of fewer
digits stays below, and one of more digits is beyond.
-/
theorem power_le_value_ofExact_iff (pos : 0 < fraction.den) (limit : Int)
    : (10 : ℚ) ^ limit ≤ (ofExact fraction).magnitude.value
      ↔ (10 : ℚ) ^ limit - 10 ^ (limit - workingDigits) / 2 ≤ fraction.value := by
  have unitPos := unit_pos (limit - workingDigits)
  have unitLe : (10 : ℚ) ^ (limit - workingDigits) ≤ 10 ^ (limit - 1) :=
    zpow_le_zpow_right₀ (by norm_num) (by rw [workingDigits]; omega)
  have power : (10 : ℚ) ^ limit = 10 * 10 ^ (limit - 1) := by
    rw [← zpow_one_add₀ (by norm_num)]
    congr 1
    omega
  rcases le_or_gt fraction.value (10 ^ (limit - 1)) with few | enough
  · have stays := value_ofExact_le_power pos few
    exact iff_of_false (by linarith) (by linarith)
  · rcases le_or_gt (10 ^ limit) fraction.value with beyond | before
    · exact iff_of_true (power_le_value_ofExact pos beyond) (by linarith)
    · have nonzero : fraction.num ≠ 0 :=
        (Fraction.value_pos_iff pos).mp ((unit_pos (limit - 1)).trans enough)
      have place : fraction.place 10 = limit - 1 + 1 :=
        Fraction.place_eq_of_bounds (by decide) pos (by exact_mod_cast enough.le)
          (by rw [Int.sub_add_cancel]; exact_mod_cast before)
      rw [ofExact, if_neg nonzero]
      exact power_le_value_ofFraction_iff pos (place.trans (Int.sub_add_cancel ..))

/-- A result is too large exactly from the half behind the greatest one on. -/
theorem overflows_ofExact_iff (pos : 0 < fraction.den)
    : (ofExact fraction).overflows
      ↔ (10 : ℚ) ^ (exponentLimit + 1 : Int)
          - 10 ^ ((exponentLimit + 1 : Int) - workingDigits) / 2
        ≤ fraction.value :=
  (overflows_iff _).trans (power_le_value_ofExact_iff pos _)

end Bytewise.Decimal

import Mathlib.Tactic.Ring
import Bytewise.Decimal.Shortest
import Bytewise.Proofs.Decimal.Nearest

/-! The decimal that a binary number is written as reads back to the number. -/

namespace Bytewise

namespace Decimal

theorem den_magnitude_pos (decimal : Decimal) : 0 < decimal.magnitude.den :=
  Fraction.den_scale_pos Nat.one_pos (by decide) decimal.exponent

theorem value_magnitude (decimal : Decimal)
    : decimal.magnitude.value = decimal.coefficient * (10 : ℚ) ^ decimal.exponent := by
  rw [magnitude, Fraction.value_scale _ (by decide), Fraction.value_ofNat, Nat.cast_ofNat]

def trailingZeros (number : Nat) : Nat :=
  ((Nat.toDigits 10 number).reverse.takeWhile (· == '0')).length

/-- One more digit at the end counts if it is zero. -/
theorem trailingZeros_of_le {number : Nat} (large : 10 ≤ number)
    : trailingZeros number
      = if number % 10 = 0 then trailingZeros (number / 10) + 1 else 0 := by
  have digit : ∀ last < 10, ((Nat.digitChar last == '0') = true ↔ last = 0) := by decide
  rw [trailingZeros, Nat.toDigits_of_base_le (by decide) large, List.reverse_append,
    List.reverse_singleton, List.singleton_append, List.takeWhile_cons]
  simp only [digit (number % 10) (Nat.mod_lt _ (by decide))]
  split
  · rfl
  · rfl

/-- A power of ten for each trailing zero divides a number, by induction on its quotients. -/
theorem pow_trailingZeros_dvd (number : Nat) : 10 ^ trailingZeros number ∣ number := by
  induction number using Nat.strongRecOn with
  | ind number ih =>
      by_cases small : number < 10
      · have digits : ∀ digit < 10, 10 ^ trailingZeros digit ∣ digit := by decide
        exact digits number small
      · rw [trailingZeros_of_le (by omega)]
        split
        case isTrue zero =>
          have product : number / 10 * 10 = number := by omega
          have divides := Nat.mul_dvd_mul_right (ih (number / 10) (by omega)) 10
          rwa [product, ← Nat.pow_succ] at divides
        case isFalse => exact Nat.one_dvd number

/-- Trailing zeros moved into the exponent leave the value as it is. -/
theorem value_normalize (decimal : Decimal)
    : decimal.normalize.magnitude.value = decimal.magnitude.value := by
  have normalized : decimal.normalize
      = ⟨decimal.coefficient / 10 ^ trailingZeros decimal.coefficient,
        decimal.exponent + trailingZeros decimal.coefficient⟩ := rfl
  obtain ⟨factor, product⟩ := pow_trailingZeros_dvd decimal.coefficient
  rw [value_magnitude, value_magnitude, normalized]
  generalize trailingZeros decimal.coefficient = zeros at product
  dsimp only
  rw [product, Nat.mul_div_cancel_left _ (Nat.pow_pos (by decide)), zpow_add₀ (by norm_num),
    zpow_natCast]
  push_cast
  ring

end Decimal

namespace Binary64

variable {number : Binary64} {decimal other : Decimal}

theorem readsBack_iff
    : number.readsBack decimal ↔ nearest number.negative decimal.magnitude = number :=
  beq_iff_eq

theorem readsBack_of_value_eq (same : decimal.magnitude.value = other.magnitude.value)
    (readsBack : number.readsBack decimal)
    : number.readsBack other := by
  rw [readsBack_iff] at readsBack ⊢
  rw [← nearest_congr decimal.den_magnitude_pos other.den_magnitude_pos same]
  exact readsBack

/-- A negative power of two is one of five over one of ten. -/
theorem value_exactDecimal (number : Binary64)
    : number.exactDecimal.magnitude.value = number.magnitude.value := by
  rw [Decimal.value_magnitude, value_magnitude, exactDecimal]
  push_cast
  rw [mul_assoc, mul_assoc]
  congr 1
  rcases Int.le_total 0 number.exponent with whole | negative
  · obtain ⟨shift, exponent⟩ := Int.eq_ofNat_of_zero_le whole
    simp [exponent]
  · obtain ⟨shift, exponent⟩ := Int.eq_ofNat_of_zero_le (Int.neg_nonneg_of_nonpos negative)
    have exponent : number.exponent = -(shift : Int) := by omega
    have power : (10 : ℚ) ^ shift = 2 ^ shift * 5 ^ shift := by
      rw [← mul_pow]
      norm_num
    simp [exponent, power]

/-- The decimal that a number of the format is written as reads back to it. Those of few digits are
tried before they are taken, and the exact one always does.
-/
theorem readsBack_shortest (normal : number.IsNormal) : number.readsBack number.shortest := by
  apply readsBack_of_value_eq (Decimal.value_normalize _).symm
  cases found : (List.range mostDigits).findSome?
      (fun fewer => (number.neighbours (fewer + 1)).find? number.readsBack) with
  | none =>
      rw [Option.getD_none, readsBack_iff, nearest_congr (Decimal.den_magnitude_pos _)
        number.den_magnitude_pos number.value_exactDecimal]
      exact nearest_magnitude normal
  | some decimal =>
      obtain ⟨fewer, -, taken⟩ := List.exists_of_findSome?_eq_some found
      exact List.find?_some taken

/-- Only zero is written without digits other than zero. -/
theorem coefficient_ne_zero (nonzero : number.significand ≠ 0)
    (readsBack : number.readsBack decimal)
    : decimal.coefficient ≠ 0 := by
  intro zero
  apply nonzero
  have noDigits : decimal.magnitude.num = 0 := by
    simp [Decimal.magnitude, Fraction.scale, Fraction.ofNat, zero]
  rw [readsBack_iff, nearest, if_pos noDigits] at readsBack
  rw [← readsBack]

end Binary64

end Bytewise

import Mathlib.Tactic.NormNum
import Bytewise.Classify
import Bytewise.Proofs.Decimal.Closest

/-! The share of text bytes in a sample. It is a quotient of two counts, and comparing the nearest
binary number to it with the one to nine tenths comes to comparing the counts exactly.
-/

namespace Bytewise.Binary64

theorem value_nineTenths : (nearest false ⟨9, 10⟩).value = 8106479329266893 / 2 ^ 53 := by
  have found : nearest false ⟨9, 10⟩ = ⟨false, 8106479329266893, -53⟩ := by decide +kernel
  rw [found, value, value_magnitude]
  norm_num

/-- The number of the format behind the one that is nearest to nine tenths. -/
def aboveNineTenths : Binary64 :=
  ⟨false, 8106479329266894, -53⟩

theorem value_aboveNineTenths : aboveNineTenths.value = 8106479329266894 / 2 ^ 53 := by
  rw [aboveNineTenths, value, value_magnitude]
  norm_num

theorem aboveNineTenths_isNormal : aboveNineTenths.IsNormal :=
  Or.inr ⟨by decide, by decide⟩

/-- The nearest number to a quotient of small counts is above the one to nine tenths exactly when
the quotient is. Witness: such a quotient that is above nine tenths is so far above them that the
next number behind their nearest one is not above the quotient.
-/
theorem nearest_le_nineTenths_iff {count total : Nat} (within : count ≤ total)
    (small : total ≤ 1024)
    : (nearest false ⟨count, total⟩).value ≤ (nearest false ⟨9, 10⟩).value
      ↔ 10 * count ≤ 9 * total := by
  rcases Nat.eq_zero_or_pos total with rfl | pos
  · obtain rfl := Nat.le_zero.mp within
    have zero : (nearest false ⟨0, 0⟩).value = 0 := by
      rw [nearest, if_pos rfl, ← abs_eq_zero, abs_value, Nat.cast_zero, zero_mul]
    rw [zero, value_nineTenths]
    norm_num
  · have totalPos : (0 : ℚ) < total := by exact_mod_cast pos
    have found : (nearest false ⟨count, total⟩).IsNearest (count / total) := nearest_isNearest pos
    constructor
    · intro le
      by_contra more
      have gap : (9 * total + 1 : ℚ) ≤ 10 * count := by exact_mod_cast Nat.lt_of_not_le more
      have sample : (total : ℚ) ≤ 1024 := by exact_mod_cast small
      have above : aboveNineTenths.value ≤ count / total := by
        rw [value_aboveNineTenths, le_div_iff₀ totalPos]
        norm_num
        linarith
      have closer := found.closest aboveNineTenths aboveNineTenths_isNormal
      have next := bound_le_of_closer closer above
      rw [value_nineTenths] at le
      rw [value_aboveNineTenths] at next
      norm_num at le next
      linarith
    · intro fewer
      have share : (10 * count : ℚ) ≤ 9 * total := by exact_mod_cast fewer
      have target : (count / total : ℚ) ≤ (nearest false ⟨9, 10⟩).value := by
        rw [value_nineTenths, div_le_iff₀ totalPos]
        norm_num
        linarith
      exact found.le (nearest_isNormal (by decide) false) target

end Bytewise.Binary64

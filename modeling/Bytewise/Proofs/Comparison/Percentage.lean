import Bytewise.Proofs.Comparison.Positions
import Bytewise.Proofs.Decimal.Closest
import Bytewise.Proofs.Decimal.Overflow

/-! The percentage of agreement as a correctly rounded number. Three roundings lead to its
hundredths, but of totals below `10 ^ 24` they are those of a single rounding with halves up: a
quotient that is below a half is so far below it that the digits kept tell the difference. It can be
told unless so many positions agree that a hundred times their number is too large.
-/

namespace Bytewise.Similarity

variable {total agreeing : Nat}

-----------------------------------------------------------------------------------------
-- The three roundings
-----------------------------------------------------------------------------------------

/-- The rounded ratio in hundredths, not yet rounded to them. -/
def inHundredths (total agreeing : Nat) : Fraction :=
  (Decimal.ofExact (ratio total agreeing)).magnitude.scale 10 2

theorem hundredths_eq_round (total agreeing : Nat)
    : hundredths total agreeing = (inHundredths total agreeing).round .awayFromZero :=
  rfl

theorem den_ratio_pos (pos : 0 < total) (agreeing : Nat) : 0 < (ratio total agreeing).den :=
  Nat.mul_pos (Decimal.den_magnitude_pos _) pos

theorem den_inHundredths_pos (total agreeing : Nat) : 0 < (inHundredths total agreeing).den :=
  Fraction.den_scale_pos (Decimal.den_magnitude_pos _) (by decide) 2

theorem value_ratio (total agreeing : Nat)
    : (ratio total agreeing).value = (product agreeing).magnitude.value / total := by
  rw [ratio, Fraction.value, Fraction.value]
  push_cast
  exact (div_div ..).symm

theorem value_inHundredths (total agreeing : Nat)
    : (inHundredths total agreeing).value
      = (Decimal.ofExact (ratio total agreeing)).magnitude.value * 100 := by
  rw [inHundredths, Fraction.value_scale _ (by decide)]
  norm_num

-----------------------------------------------------------------------------------------
-- Any total
-----------------------------------------------------------------------------------------

/-- The ratio is above a hundred by less than one part in `10 ^ 27`, the error of the product. -/
theorem value_ratio_le (pos : 0 < total) (within : agreeing ≤ total)
    : (ratio total agreeing).value ≤ 100 * (1 + 1 / 10 ^ (Decimal.workingDigits - 1)) := by
  have totalPos : (0 : ℚ) < total := by exact_mod_cast pos
  have part : (agreeing : ℚ) ≤ total := by exact_mod_cast within
  have slackPos : (0 : ℚ) < 1 + 1 / 10 ^ (Decimal.workingDigits - 1) := by positivity
  have bound : (product agreeing).magnitude.value
      ≤ (Fraction.ofNat (agreeing * 100)).value * (1 + 1 / 10 ^ (Decimal.workingDigits - 1)) :=
    Decimal.value_ofExact_le_mul Nat.one_pos
  rw [value_ratio, div_le_iff₀ totalPos]
  calc (product agreeing).magnitude.value
    _ ≤ (Fraction.ofNat (agreeing * 100)).value * (1 + 1 / 10 ^ (Decimal.workingDigits - 1)) :=
      bound
    _ = agreeing * (100 * (1 + 1 / 10 ^ (Decimal.workingDigits - 1))) := by
      rw [Fraction.value_ofNat]
      push_cast
      ring
    _ ≤ total * (100 * (1 + 1 / 10 ^ (Decimal.workingDigits - 1))) :=
      mul_le_mul_of_nonneg_right part (by positivity)
    _ = 100 * (1 + 1 / 10 ^ (Decimal.workingDigits - 1)) * total := mul_comm ..

/-- However large the numbers are, no more than all hundredths come out. Witness: what the first two
roundings can add is far below the half that the last one takes away.
-/
theorem hundredths_le (pos : 0 < total) (within : agreeing ≤ total)
    : hundredths total agreeing ≤ 10000 := by
  have bound := value_ratio_le pos within
  have rounded := Decimal.value_ofExact_le_mul (den_ratio_pos pos agreeing)
  have error :=
    (abs_le.mp (Fraction.abs_round_sub_value_le (den_inHundredths_pos total agreeing)
      .awayFromZero)).2
  rw [← hundredths_eq_round, value_inHundredths] at error
  norm_num [Decimal.workingDigits] at bound rounded error
  have below : (hundredths total agreeing : ℚ) < (10001 : Nat) := by
    push_cast
    linarith
  exact Nat.lt_succ_iff.mp (by exact_mod_cast below)

-----------------------------------------------------------------------------------------
-- Totals below the limit
-----------------------------------------------------------------------------------------

/-- Below the limit the product is not rounded. -/
theorem value_ratio_eq (small : total < 10 ^ 24) (within : agreeing ≤ total)
    : (ratio total agreeing).value * 100 = 10000 * agreeing / total := by
  have fits : agreeing * 100 < 10 ^ Decimal.workingDigits := by
    rw [Decimal.workingDigits]
    omega
  rw [value_ratio, product, Decimal.value_ofExact_ofNat fits]
  push_cast
  ring

/-- The hundredths of a percentage that is rounded once, with halves up. -/
def roundedOnce (total agreeing : Nat) : Nat :=
  (20000 * agreeing + total) / (2 * total)

/-- A percentage is not below the half before its hundredths rounded once. -/
theorem half_before_le (pos : 0 < total) (agreeing : Nat)
    : (roundedOnce total agreeing : ℚ) - 1 / 2 ≤ 10000 * agreeing / total := by
  have totalPos : (0 : ℚ) < total := by exact_mod_cast pos
  have low : (roundedOnce total agreeing * (2 * total) : ℚ) ≤ 20000 * agreeing + total := by
    exact_mod_cast Nat.div_mul_le_self (20000 * agreeing + total) (2 * total)
  rw [le_div_iff₀ totalPos]
  linarith

/-- A percentage is below the half behind its hundredths rounded once, and not closer to it than
the total allows: twice the total is a denominator of both.
-/
theorem gap_before_half (pos : 0 < total) (agreeing : Nat)
    : (10000 * agreeing / total : ℚ) + 1 / (2 * total) ≤ roundedOnce total agreeing + 1 / 2 := by
  have totalPos : (0 : ℚ) < total := by exact_mod_cast pos
  have less : 20000 * agreeing + total < 2 * total * (roundedOnce total agreeing + 1) :=
    Nat.lt_mul_div_succ _ (by omega)
  have high : (20000 * agreeing + total + 1 : ℚ)
      ≤ 2 * total * (roundedOnce total agreeing + 1) := by
    exact_mod_cast less
  have sum : (10000 * agreeing / total : ℚ) + 1 / (2 * total)
      = (20000 * agreeing + 1) / (2 * total) := by
    field_simp
    ring
  rw [sum, div_le_iff₀ (by linarith)]
  linarith

/-- The digits kept do not bring a percentage below the half before its hundredths rounded once;
witness: they can tell that half exactly.
-/
theorem half_before_le_inHundredths (pos : 0 < total) (small : total < 10 ^ 24)
    (within : agreeing ≤ total)
    : (roundedOnce total agreeing : ℚ) - 1 / 2 ≤ (inHundredths total agreeing).value := by
  have half := half_before_le pos agreeing
  have bound := value_ratio_le pos within
  rw [value_inHundredths]
  cases found : roundedOnce total agreeing with
  | zero =>
      have nonnegative := (Decimal.ofExact (ratio total agreeing)).magnitude.value_nonneg
      rw [Nat.cast_zero]
      linarith
  | succ number =>
      rw [found] at half
      have below : (ratio total agreeing).value
          < (10 : ℚ) ^ ((-3 : Int) + (Decimal.workingDigits : Nat)) := by
        norm_num [Decimal.workingDigits] at bound ⊢
        linarith
      have told : ((10 * number + 5 : Nat) : ℚ) * 10 ^ (-3 : Int)
          ≤ (ratio total agreeing).value := by
        rw [← value_ratio_eq small within] at half
        push_cast at half ⊢
        norm_num
        linarith
      have kept := bound_le_of_closer
        (Decimal.abs_value_ofExact_sub_le_abs_sub (den_ratio_pos pos agreeing) below _) told
      push_cast at kept ⊢
      norm_num at kept
      linarith

/-- A total that agrees completely has all hundredths; witness: a hundred is told exactly. -/
theorem value_inHundredths_all (pos : 0 < total) (small : total < 10 ^ 24)
    : (inHundredths total total).value = 10000 := by
  have totalPos : (0 : ℚ) < total := by exact_mod_cast pos
  have all : (ratio total total).value = (100 : Nat) * (10 : ℚ) ^ (0 : Int) := by
    have whole := value_ratio_eq small le_rfl
    rw [mul_div_assoc, div_self totalPos.ne'] at whole
    norm_num
    linarith
  have below : (ratio total total).value
      < (10 : ℚ) ^ ((0 : Int) + (Decimal.workingDigits : Nat)) := by
    rw [all]
    norm_num [Decimal.workingDigits]
  have closest :=
    Decimal.abs_value_ofExact_sub_le_abs_sub (den_ratio_pos pos total) below 100
  rw [all, sub_self, abs_zero] at closest
  rw [value_inHundredths, sub_eq_zero.mp (abs_nonpos_iff.mp closest)]
  norm_num

/-- The digits kept do not bring a percentage up to the half behind its hundredths rounded once;
witness: their error is smaller than the gap that the total allows, unless nothing differs.
-/
theorem inHundredths_lt_half_behind (pos : 0 < total) (small : total < 10 ^ 24)
    (within : agreeing ≤ total)
    : (inHundredths total agreeing).value < roundedOnce total agreeing + 1 / 2 := by
  have totalPos : (0 : ℚ) < total := by exact_mod_cast pos
  have gapPos : (0 : ℚ) < 1 / (2 * total) := by positivity
  have gap := gap_before_half pos agreeing
  rcases Nat.lt_or_eq_of_le within with less | rfl
  · have below : (ratio total agreeing).value < (10 : ℚ) ^ (2 : Int) := by
      have part : (10000 * agreeing / total : ℚ) < 10000 := by
        rw [div_lt_iff₀ totalPos]
        linarith [show (agreeing : ℚ) < total by exact_mod_cast less]
      rw [← value_ratio_eq small within] at part
      norm_num
      linarith
    have error :=
      (abs_le.mp (Decimal.abs_value_ofExact_sub_le (den_ratio_pos pos agreeing) below)).2
    have limit : (2 * total : ℚ) < 2 * 10 ^ 24 := by
      linarith [show (total : ℚ) < 10 ^ 24 by exact_mod_cast small]
    have wide := one_div_lt_one_div_of_lt (by linarith) limit
    norm_num [Decimal.workingDigits] at error
    rw [← value_ratio_eq small within] at gap
    rw [value_inHundredths]
    linarith
  · rw [mul_div_assoc, div_self totalPos.ne'] at gap
    rw [value_inHundredths_all pos small]
    linarith

/-- Three roundings come to the same hundredths as a single one; witness: all of them stay between
the same two halves.
-/
theorem hundredths_eq_roundedOnce (pos : 0 < total) (small : total < 10 ^ 24)
    (within : agreeing ≤ total)
    : hundredths total agreeing = roundedOnce total agreeing :=
  Fraction.round_awayFromZero_eq (den_inHundredths_pos total agreeing)
    (half_before_le_inHundredths pos small within)
    (inHundredths_lt_half_behind pos small within)

-----------------------------------------------------------------------------------------
-- The number that is reported
-----------------------------------------------------------------------------------------

theorem percentage_isNearest (hundredths : Nat)
    : (percentage false hundredths).IsNearest (hundredths / 100) :=
  Binary64.nearest_isNearest (show 0 < 100 by decide)

theorem value_percentage_nonneg (hundredths : Nat)
    : 0 ≤ (percentage false hundredths).value :=
  Binary64.value_nonneg (Binary64.negative_nearest ..)

theorem value_percentage_all : (percentage false 10000).value = 100 := by
  have found : percentage false 10000 = ⟨false, 7036874417766400, -46⟩ := by decide +kernel
  rw [found, Binary64.value, Binary64.value_magnitude]
  norm_num

/-- The nearest numbers to hundredths keep below a hundred with them; witness: it is one of the
format's numbers itself.
-/
theorem value_percentage_le {hundredths : Nat} (bound : hundredths ≤ 10000)
    : (percentage false hundredths).value ≤ 100 := by
  have target : (hundredths / 100 : ℚ) ≤ (percentage false 10000).value := by
    rw [value_percentage_all, div_le_iff₀ (by norm_num)]
    norm_num
    exact_mod_cast bound
  rw [← value_percentage_all]
  exact (percentage_isNearest hundredths).le (percentage_isNearest 10000).normal target

-----------------------------------------------------------------------------------------
-- Products that are too large
-----------------------------------------------------------------------------------------

/-- The least number of positions a hundred times which is too large. -/
def agreeingLimit : Nat := 10 ^ 999998 - 5 * 10 ^ 999969

theorem agreeingLimit_eq : agreeingLimit = (10 ^ 29 - 5) * 10 ^ 999969 := by
  rw [agreeingLimit, show 999998 = 29 + 999969 from rfl, pow_add, Nat.sub_mul]

/-- A number of positions stays below the limit if it has 30 digits less. -/
theorem lt_agreeingLimit {number digits : Nat} (small : number < 10 ^ digits)
    (few : digits ≤ 999969)
    : number < agreeingLimit := by
  have factor : 1 * 10 ^ 999969 ≤ (10 ^ 29 - 5) * 10 ^ 999969 :=
    Nat.mul_le_mul_right _ (by decide)
  have power : 10 ^ digits ≤ 10 ^ 999969 := pow_le_pow_right₀ (by decide) few
  rw [Nat.one_mul, ← agreeingLimit_eq] at factor
  exact small.trans_le (power.trans factor)

/-- The product is too large exactly from the limit on. -/
theorem overflows_product_iff (agreeing : Nat)
    : (product agreeing).overflows ↔ agreeingLimit ≤ agreeing := by
  have power : (10 : ℚ) ^ (Decimal.exponentLimit + 1 : Int) = 10 ^ 31 * 10 ^ 999969 := by
    rw [show (Decimal.exponentLimit + 1 : Int) = (31 + 999969 : Nat) from rfl, zpow_natCast,
      pow_add]
  have unit : (10 : ℚ) ^ ((Decimal.exponentLimit + 1 : Int) - Decimal.workingDigits)
      = 10 ^ 3 * 10 ^ 999969 := by
    rw [show (Decimal.exponentLimit + 1 : Int) - Decimal.workingDigits
        = (3 + 999969 : Nat) from rfl,
      zpow_natCast, pow_add]
  have limit : (agreeingLimit : ℚ) = (10 ^ 29 - 5) * 10 ^ 999969 := by
    rw [agreeingLimit_eq, Nat.cast_mul, Nat.cast_pow, Nat.cast_ofNat]
    norm_num only
  rw [product, Decimal.overflows_ofExact_iff Nat.one_pos, power, unit, Fraction.value_ofNat,
    ← Nat.cast_le (α := ℚ), limit]
  push_cast
  generalize (10 : ℚ) ^ 999969 = power
  constructor <;> intro le <;> linarith

/-- The quotient is not too large; witness: it hardly exceeds a hundred. -/
theorem not_overflows_ratio (pos : 0 < total) (within : agreeing ≤ total)
    : ¬ (Decimal.ofExact (ratio total agreeing)).overflows := by
  have bound := value_ratio_le pos within
  have thousand : (ratio total agreeing).value ≤ (10 : ℚ) ^ (3 : Int) := by
    norm_num [Decimal.workingDigits] at bound ⊢
    linarith
  have result := Decimal.value_ofExact_le_power (den_ratio_pos pos agreeing) thousand
  rw [Decimal.overflows_iff, not_le]
  exact result.trans_lt (zpow_lt_zpow_right₀ (by norm_num) (by decide))

/-- A percentage can be told or the product is too large, as long as no more positions differ than
there are.
-/
theorem failure?_eq {count : Nat} (pos : 0 < total) (within : count ≤ total)
    : failure? total count = if agreeingLimit ≤ total - count then some .overflow else none := by
  have agreeing : (total - count : Int) = (total - count : Nat) := (Int.ofNat_sub within).symm
  have nonzero : (total : Int) ≠ 0 := Int.natCast_ne_zero.mpr pos.ne'
  have few : ¬ hundredthsLimit ≤ hundredths total (total - count) :=
    not_le.mpr (lt_of_le_of_lt (hundredths_le pos (Nat.sub_le ..)) (by decide))
  simp only [failure?, agreeing, Int.natAbs_natCast, nonzero, if_false, overflows_product_iff,
    not_overflows_ratio pos (Nat.sub_le ..), few, Bool.false_eq_true]

/-- A natural number of hundredths is found if no more positions differ than there are and the
product is not too large.
-/
theorem ofCount?_eq {count : Nat} (pos : 0 < total) (within : count ≤ total)
    (fits : total - count < agreeingLimit)
    : ofCount? total count = some (percentage false (hundredths total (total - count))) := by
  have agreeing : (total - count : Int) = (total - count : Nat) := (Int.ofNat_sub within).symm
  have nonzero : (total : Int) ≠ 0 := Int.natCast_ne_zero.mpr pos.ne'
  rw [ofCount?, failure?_eq pos within, if_neg (not_le.mpr fits), if_pos rfl, ofCount,
    if_neg nonzero, agreeing, Int.natAbs_natCast, Int.natAbs_natCast, Binary64.decide_natCast_neg,
    Binary64.decide_natCast_neg]
  rfl

/-- What is found for two numbers is their percentage. -/
theorem ofCount_eq_of_ofCount? {total count : Int} {number : Binary64}
    (found : ofCount? total count = some number)
    : ofCount total count = number :=
  Option.some.inj (Option.ite_none_right_eq_some.mp found).2

/-- The percentage of agreement when `count` of `total` positions differ, rounded once: halves of a
hundredth go up, then the nearest number is taken. From totals of `10 ^ 24` on it is only said to be
a percentage.
-/
structure IsRoundedOnce (total count : Nat) (number : Binary64) : Prop where
  nonnegative : 0 ≤ number.value
  le_hundred : number.value ≤ 100
  empty : total = 0 → number.value = 100
  hundredths
    : 0 < total → total < 10 ^ 24 →
        number = percentage false (roundedOnce total (total - count))
        ∧ number.IsNearest (roundedOnce total (total - count) / 100)

/-- A percentage is found unless the product is too large, and it is the one that is rounded once.
-/
theorem exists_isRoundedOnce {count : Nat} (within : count ≤ total)
    (fits : total - count < agreeingLimit)
    : ∃ number, ofCount? total count = some number ∧ IsRoundedOnce total count number := by
  rcases Nat.eq_zero_or_pos total with rfl | pos
  · refine ⟨percentage false 10000, rfl, ?_⟩
    exact {
      nonnegative := value_percentage_nonneg 10000
      le_hundred := value_percentage_all.le
      empty := fun _ => value_percentage_all
      hundredths := fun pos => absurd pos (Nat.lt_irrefl 0)
    }
  · refine ⟨_, ofCount?_eq pos within fits, ?_⟩
    exact {
      nonnegative := value_percentage_nonneg _
      le_hundred := value_percentage_le (hundredths_le pos (Nat.sub_le ..))
      empty := fun zero => absurd zero pos.ne'
      hundredths := fun _ small => by
        rw [hundredths_eq_roundedOnce pos small (Nat.sub_le ..)]
        exact ⟨rfl, percentage_isNearest _⟩
    }

end Bytewise.Similarity

namespace Bytewise

open Similarity

/-- For any numbers of positions a percentage is found, and it is the one that is rounded once, as
long as fewer positions agree than the limit; from the limit on the product is too large. What a
comparison reports is found for the longer buffer's positions and those at which the buffers
differ.
-/
theorem similarity_isRoundedOnce
    : (∀ total count : Nat, count ≤ total →
        (total - count < agreeingLimit →
          ∃ number, ofCount? total count = some number ∧ IsRoundedOnce total count number)
        ∧ (agreeingLimit ≤ total - count → failure? total count = some .overflow))
      ∧ ∀ file1 file2 : NamedBuffer,
          let total := max file1.content.size file2.content.size
          let count := {position | DiffersAt file1.content file2.content position}.ncard
          count ≤ total
          ∧ (Comparison.of file1 file2).similarity = ofBuffers file1.content file2.content
          ∧ (total - count < agreeingLimit →
              ofCount? total count = some (ofBuffers file1.content file2.content)
              ∧ IsRoundedOnce total count (ofBuffers file1.content file2.content)) := by
  constructor
  · intro total count within
    refine ⟨exists_isRoundedOnce within, ?_⟩
    intro large
    have pos : 0 < total :=
      (lt_agreeingLimit Nat.one_pos (Nat.zero_le _)).trans_le (large.trans (Nat.sub_le ..))
    rw [failure?_eq pos within, if_pos large]
  · intro file1 file2
    dsimp only
    rw [← length_differences]
    have within := length_differences_le file1.content file2.content
    refine ⟨within, rfl, ?_⟩
    intro fits
    obtain ⟨number, found, rounded⟩ := exists_isRoundedOnce within fits
    have reported : ofBuffers file1.content file2.content = number := by
      rw [ofBuffers, ← Nat.cast_max]
      exact ofCount_eq_of_ofCount? found
    rw [reported]
    exact ⟨found, rounded⟩

/-- When one of 800 positions differs, the others are 99.875 percent of them, and the half of a
hundredth goes up.
-/
theorem similarity_of_half
    : 1 ≤ 800 ∧ 800 - 1 < agreeingLimit
      ∧ ofCount? 800 1 = some (percentage false 9988)
      ∧ (percentage false 9988).IsNearest (9988 / 100) := by
  have few : 800 - 1 < agreeingLimit :=
    lt_agreeingLimit (show 800 - 1 < 10 ^ 3 by decide) (by decide)
  obtain ⟨number, found, rounded⟩ := (similarity_isRoundedOnce.1 800 1 (by decide)).1 few
  obtain ⟨number_eq, nearest⟩ := rounded.hundredths (by decide) (by decide)
  have half : roundedOnce 800 (800 - 1) = 9988 := by decide
  rw [half] at number_eq nearest
  subst number_eq
  exact ⟨by decide, few, found, nearest⟩

/-- No percentage is found when all of `10 ^ 999998` positions agree: the product is too large. -/
theorem no_similarity_of_power
    : 0 ≤ 10 ^ 999998
      ∧ failure? (10 ^ 999998 : Nat) (0 : Nat) = some .overflow
      ∧ ofCount? (10 ^ 999998 : Nat) (0 : Nat) = none := by
  have large : agreeingLimit ≤ 10 ^ 999998 - 0 := by
    rw [agreeingLimit]
    exact Nat.sub_le_sub_left (Nat.zero_le _) _
  have failed : failure? (10 ^ 999998 : Nat) (0 : Nat) = some .overflow := by
    have pos : 0 < 10 ^ 999998 := by positivity
    rw [failure?_eq pos (Nat.zero_le _), if_pos large]
  refine ⟨Nat.zero_le _, failed, ?_⟩
  rw [ofCount?, failed]
  rfl

end Bytewise

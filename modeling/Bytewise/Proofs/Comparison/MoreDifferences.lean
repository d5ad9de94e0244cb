import Bytewise.Proofs.Comparison.Percentage
import Bytewise.Proofs.Decimal.Monotone

/-! More differences never raise the percentage of agreement, however large the numbers are. Each of
the four roundings that lead to it keeps the order, and a sign turns it around for what agrees with
less than nothing.
-/

namespace Bytewise.Similarity

variable {total agreeing more : Nat}

/-- More positions that agree do not have fewer hundredths; witness: the product, the quotient and
the hundredths are rounded one after the other, and each rounding keeps the order.
-/
theorem hundredths_le_hundredths (pos : 0 < total) (le : agreeing ≤ more)
    : hundredths total agreeing ≤ hundredths total more := by
  have products : (product agreeing).magnitude.value ≤ (product more).magnitude.value := by
    apply Decimal.value_ofExact_le_value_ofExact Nat.one_pos Nat.one_pos
    rw [Fraction.value_ofNat, Fraction.value_ofNat]
    exact_mod_cast Nat.mul_le_mul_right 100 le
  have ratios : (ratio total agreeing).value ≤ (ratio total more).value := by
    rw [value_ratio, value_ratio]
    exact div_le_div_of_nonneg_right products (Nat.cast_nonneg total)
  have quotients : (inHundredths total agreeing).value ≤ (inHundredths total more).value :=
    Fraction.value_scale_le_value_scale
      (Decimal.value_ofExact_le_value_ofExact (den_ratio_pos pos agreeing)
        (den_ratio_pos pos more) ratios)
      (by decide) 2
  exact Fraction.round_le_round (den_inHundredths_pos total agreeing)
    (den_inHundredths_pos total more) quotients .awayFromZero

theorem value_percentage_le_value_percentage {hundredths more : Nat} (le : hundredths ≤ more)
    : (percentage false hundredths).value ≤ (percentage false more).value := by
  apply Binary64.value_nearest_le_value_nearest (show 0 < 100 by decide) (show 0 < 100 by decide)
  rw [Fraction.value, Fraction.value]
  exact div_le_div_of_nonneg_right (Nat.cast_le.mpr le) (Nat.cast_nonneg 100)

/-- The percentage for some number of positions that agree, which may be negative. -/
def agreement (total : Nat) (agreeing : Int) : ℚ :=
  (percentage (agreeing < 0) (hundredths total agreeing.natAbs)).value

theorem value_of_ofCount? {count : Int} {number : Binary64} (pos : 0 < total)
    (found : ofCount? total count = some number)
    : number.value = agreement total (total - count) := by
  obtain rfl := ofCount_eq_of_ofCount? found
  have nonzero : (total : Int) ≠ 0 := Int.natCast_ne_zero.mpr pos.ne'
  rw [ofCount, if_neg nonzero, Binary64.decide_natCast_neg, Bool.bne_false]
  rfl

/-- The percentage is in the order of the positions that agree, by the signs of their numbers. -/
theorem agreement_le_agreement {agreeing more : Int} (pos : 0 < total) (le : agreeing ≤ more)
    : agreement total agreeing ≤ agreement total more := by
  have nonnegative (number : Int) := value_percentage_nonneg (hundredths total number.natAbs)
  rw [agreement, agreement]
  by_cases negative : agreeing < 0
  · rw [decide_eq_true negative, percentage, Binary64.value_nearest_true]
    by_cases moreNegative : more < 0
    · have magnitudes : more.natAbs ≤ agreeing.natAbs := by omega
      rw [decide_eq_true moreNegative, percentage, Binary64.value_nearest_true]
      exact neg_le_neg
        (value_percentage_le_value_percentage (hundredths_le_hundredths pos magnitudes))
    · rw [decide_eq_false moreNegative]
      exact (neg_nonpos.mpr (nonnegative agreeing)).trans (nonnegative more)
  · have moreNotNegative : ¬ more < 0 := by omega
    have magnitudes : agreeing.natAbs ≤ more.natAbs := by omega
    rw [decide_eq_false negative, decide_eq_false moreNotNegative]
    exact value_percentage_le_value_percentage (hundredths_le_hundredths pos magnitudes)

/-- Of two percentages that are found for a positive total, the one for more differences is not the
greater one. The numbers of differences may be negative or above the total.
-/
theorem percentage_antitone {total count more : Int} {number other : Binary64}
    (pos : 0 < total) (le : count ≤ more) (found : ofCount? total count = some number)
    (otherFound : ofCount? total more = some other)
    : other.value ≤ number.value := by
  obtain ⟨size, rfl⟩ := Int.eq_ofNat_of_zero_le pos.le
  have sizePos : 0 < size := Int.natCast_pos.mp pos
  rw [value_of_ofCount? sizePos found, value_of_ofCount? sizePos otherFound]
  exact agreement_le_agreement sizePos (Int.sub_le_sub_left le size)

/-- A total of 31 digits, with products that are rounded: the percentage for fewer differences than
none is above a hundred, and the one for more than all is negative.
-/
theorem percentage_antitone_large
    : (0 : Int) < 10 ^ 30 + 7 ∧ (-10 ^ 30 : Int) ≤ 2 * 10 ^ 30 + 1
      ∧ ofCount? (10 ^ 30 + 7) (-10 ^ 30) = some (percentage false 20000)
      ∧ ofCount? (10 ^ 30 + 7) (2 * 10 ^ 30 + 1) = some (percentage true 10000)
      ∧ (percentage true 10000).value ≤ (percentage false 20000).value := by
  have found : ofCount? (10 ^ 30 + 7) (-10 ^ 30) = some (percentage false 20000) := by
    decide +kernel
  have otherFound
      : ofCount? (10 ^ 30 + 7) (2 * 10 ^ 30 + 1) = some (percentage true 10000) := by
    decide +kernel
  exact ⟨by decide, by decide, found, otherFound,
    percentage_antitone (by decide) (by decide) found otherFound⟩

end Bytewise.Similarity

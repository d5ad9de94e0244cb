import Mathlib.Algebra.Ring.Parity
import Bytewise.Proofs.Decimal.Monotone

/-! Rounding that lets the even neighbour have the halves: to an integer, and to a number of the
binary format. Integers of at most 53 bits are numbers of the format themselves, and the integers
that are too large for it begin with the half between its greatest number and the power behind that.
-/

namespace Bytewise

/-- An integer is no more than a half away from a target, and even if it is as much as that. -/
structure RoundsToEven (number : Int) (target : ℚ) : Prop where
  within : |(number : ℚ) - target| ≤ 1 / 2
  even : |(number : ℚ) - target| = 1 / 2 → Even number

namespace RoundsToEven

variable {number bound : Int} {target : ℚ}

/-- Rounding does not go below an integer that the target is not below. -/
theorem bound_le (rounds : RoundsToEven number target) (le : (bound : ℚ) ≤ target)
    : bound ≤ number := by
  have near := (abs_le.mp rounds.within).1
  have above : (bound : ℚ) < (number + 1 : Int) := by
    push_cast
    linarith
  exact Int.lt_add_one_iff.mp (by exact_mod_cast above)

/-- Rounding does not go above an integer that the target is not above. -/
theorem le_bound (rounds : RoundsToEven number target) (le : target ≤ bound)
    : number ≤ bound := by
  have near := (abs_le.mp rounds.within).2
  have below : (number : ℚ) < (bound + 1 : Int) := by
    push_cast
    linarith
  exact Int.lt_add_one_iff.mp (by exact_mod_cast below)

/-- An even integer is reached from the half before it on; witness: at that half itself, the other
neighbour is odd.
-/
theorem bound_le_iff (rounds : RoundsToEven number target) (even : Even bound)
    : bound ≤ number ↔ (bound : ℚ) - 1 / 2 ≤ target := by
  obtain ⟨low, high⟩ := abs_le.mp rounds.within
  constructor
  · intro le
    have cast : (bound : ℚ) ≤ number := by exact_mod_cast le
    linarith
  · intro half
    by_contra below
    have before : number ≤ bound - 1 := by omega
    have cast : (number : ℚ) ≤ bound - 1 := by exact_mod_cast before
    have last : number = bound - 1 := by
      have equal : (number : ℚ) = (bound - 1 : Int) := by
        push_cast
        linarith
      exact_mod_cast equal
    have distance : |(number : ℚ) - target| = 1 / 2 := by
      rw [abs_of_nonpos (by linarith)]
      linarith
    have parity := rounds.even distance
    rw [last] at parity
    exact Int.not_even_one ((Int.even_sub.mp parity).mp even)

end RoundsToEven

-----------------------------------------------------------------------------------------
-- Integers
-----------------------------------------------------------------------------------------

theorem even_roundDiv_of_half {num den : Nat} (half : 2 * (num % den) = den)
    : Even (roundDiv .toEven num den) := by
  simp only [roundDiv, half, Nat.lt_irrefl, if_false]
  exact Nat.even_iff.mpr (by omega)

namespace Fraction

variable {fraction : Fraction}

/-- A fraction that is a half away from its rounding has half of its denominator as a remainder, by
which of its neighbours the rounding is.
-/
theorem half_of_distance (pos : 0 < fraction.den) {tie : Tie}
    (distance : |(fraction.round tie : ℚ) - fraction.value| = 1 / 2)
    : 2 * (fraction.num % fraction.den) = fraction.den := by
  have denPos : (0 : ℚ) < fraction.den := by exact_mod_cast pos
  have division : (fraction.den : ℚ) * (fraction.num / fraction.den : Nat)
      + (fraction.num % fraction.den : Nat) = fraction.value * fraction.den := by
    rw [value_mul_den pos]
    exact_mod_cast Nat.div_add_mod fraction.num fraction.den
  have scaled : |(fraction.round tie : ℚ) * fraction.den - fraction.value * fraction.den|
      = fraction.den / 2 := by
    rw [← sub_mul, abs_mul, distance, abs_of_pos denPos]
    ring
  have remainder : (0 : ℚ) ≤ (fraction.num % fraction.den : Nat) := Nat.cast_nonneg _
  have less : ((fraction.num % fraction.den : Nat) : ℚ) < fraction.den := by
    exact_mod_cast Nat.mod_lt _ pos
  have double : (2 * (fraction.num % fraction.den : Nat) : ℚ) = fraction.den := by
    rcases roundDiv_cases tie fraction.num fraction.den with down | up
    · rw [round, down, abs_sub_comm, abs_of_nonneg (by linarith)] at scaled
      linarith
    · rw [round, up, Nat.cast_add_one, abs_of_nonneg (by linarith)] at scaled
      linarith
  exact_mod_cast double

theorem round_toEven (pos : 0 < fraction.den)
    : RoundsToEven (fraction.round .toEven) fraction.value where
  within := by
    rw [Int.cast_natCast]
    exact abs_round_sub_value_le pos .toEven
  even := by
    intro distance
    rw [Int.cast_natCast] at distance
    exact (Int.even_coe_nat _).mpr (even_roundDiv_of_half (half_of_distance pos distance))

/-- A fraction with another integer as close to it as its rounding has an even one. Witness: the two
are at least one apart, so each of them is a half away.
-/
theorem even_round_of_tie (pos : 0 < fraction.den) {number : Int}
    (other : number ≠ fraction.round .toEven)
    (tie : |(number : ℚ) - fraction.value| = |(fraction.round .toEven : ℚ) - fraction.value|)
    : Even (fraction.round .toEven) := by
  have apart : (1 : ℚ) ≤ |(number : ℚ) - fraction.round .toEven| := by
    exact_mod_cast Int.one_le_abs (sub_ne_zero.mpr other)
  have between := abs_sub_le (number : ℚ) fraction.value (fraction.round .toEven : ℚ)
  rw [abs_sub_comm fraction.value, tie] at between
  have most := abs_round_sub_value_le pos .toEven
  have distance : |(fraction.round .toEven : ℚ) - fraction.value| = 1 / 2 := by linarith
  exact even_roundDiv_of_half (half_of_distance pos distance)

end Fraction

-----------------------------------------------------------------------------------------
-- Numbers of the format
-----------------------------------------------------------------------------------------

namespace Binary64

/-- No number of the format is closer to a target, and where another one is as close, this one has
the even significand.
-/
structure IsNearestEven (number : Binary64) (target : ℚ) : Prop
    extends number.IsNearest target where
  even
    : ∀ other : Binary64,
        other.IsNormal → other.value ≠ number.value
        → |other.value - target| = |number.value - target|
        → Even number.significand

variable {fraction : Fraction}

/-- Where the rounding is even the significand is, also if it has become one bit longer. -/
theorem even_significand_nearest
    (even : Even ((fraction.scale 2 (-(fraction.place 2 - 53))).round .toEven))
    : Even (nearest false fraction).significand := by
  rw [nearest]
  dsimp only [precision, Nat.cast_ofNat]
  split_ifs
  · exact Even.zero
  · exact (show Even (significandLimit / 2) by decide)
  · exact even

/-- Another multiple of the last bit's power is as close only where the significand is even. -/
theorem even_of_multiple (pos : 0 < fraction.den) (nonzero : fraction.num ≠ 0) {factor : Int}
    (other : factor * (2 : ℚ) ^ (fraction.place 2 - 53) ≠ (nearest false fraction).value)
    (tie
      : |factor * (2 : ℚ) ^ (fraction.place 2 - 53) - fraction.value|
        = |(nearest false fraction).value - fraction.value|)
    : Even (nearest false fraction).significand := by
  have unitPos : (0 : ℚ) < 2 ^ (fraction.place 2 - 53) := zpow_pos (by norm_num) _
  have scaled := fraction.value_eq_scale_mul (show 0 < 2 by decide) (fraction.place 2 - 53)
  rw [Nat.cast_ofNat] at scaled
  rw [value_nearest nonzero] at other tie
  rw [scaled, ← sub_mul, ← sub_mul, abs_mul, abs_mul, abs_of_pos unitPos] at tie
  have differs : factor ≠ (fraction.scale 2 (-(fraction.place 2 - 53))).round .toEven := by
    rintro rfl
    exact other (by rw [Int.cast_natCast])
  exact even_significand_nearest
    (Fraction.even_round_of_tie (Fraction.den_scale_pos pos (by decide) _) differs
      (mul_right_cancel₀ unitPos.ne' tie))

/-- The number found for a fraction is the closest one, and the even one of two. Witness: a number
that is as close is a multiple of the last bit's power, or it would be below the least multiple with
53 bits, which is closer.
-/
theorem nearest_isNearestEven (pos : 0 < fraction.den)
    : (nearest false fraction).IsNearestEven fraction.value := by
  refine ⟨nearest_isNearest pos, ?_⟩
  intro other normal apart tie
  by_cases zero : fraction.num = 0
  · rw [nearest, if_pos zero]
    exact Even.zero
  · rcases value_multiple_or_small normal (fraction.place 2 - 53) with ⟨factor, multiple⟩ | small
    · rw [multiple] at apart tie
      exact even_of_multiple pos zero apart tie
    · have least := least_multiple_le pos zero
      have closer := nearest_closest_multiple pos zero (2 ^ 52)
      rw [Int.cast_pow, Int.cast_ofNat] at closer
      rcases (le_trans (le_abs_self _) small).lt_or_eq with below | same
      · rw [← tie, abs_of_neg (by linarith), abs_of_nonpos (by linarith)] at closer
        linarith
      · have multiple : other.value = (2 ^ 52 : Int) * (2 : ℚ) ^ (fraction.place 2 - 53) := by
          rw [same, Int.cast_pow, Int.cast_ofNat]
        rw [multiple] at apart tie
        exact even_of_multiple pos zero apart tie

-----------------------------------------------------------------------------------------
-- Integers of the format
-----------------------------------------------------------------------------------------

theorem ofInt_natCast (number : Nat) : ofInt number = nearest false (.ofNat number) := by
  rw [ofInt, decide_natCast_neg, Int.natAbs_natCast]

/-- What is found for an integer is in the order of the integers. -/
theorem value_ofInt_le_value_ofInt {number other : Nat} (le : number ≤ other)
    : (ofInt number).value ≤ (ofInt other).value := by
  rw [ofInt_natCast, ofInt_natCast]
  apply value_nearest_le_value_nearest Nat.one_pos Nat.one_pos
  rw [Fraction.value_ofNat, Fraction.value_ofNat]
  exact_mod_cast le

theorem ofInt_isNearestEven (number : Nat) : (ofInt number).IsNearestEven number := by
  rw [ofInt_natCast, ← Fraction.value_ofNat]
  exact nearest_isNearestEven Nat.one_pos

/-- A target that is the value of a number of the format is what is nearest to it. -/
theorem IsNearest.value_eq {number other : Binary64} {target : ℚ}
    (nearest : number.IsNearest target) (normal : other.IsNormal) (same : other.value = target)
    : number.value = target := by
  have closest := nearest.closest other normal
  rw [same, sub_self, abs_zero] at closest
  exact sub_eq_zero.mp (abs_nonpos_iff.mp closest)

/-- An integer below `2 ^ 53` is a number of the format; witness: its digits are shifted until there
are 53 of them.
-/
theorem exists_isNormal {number : Nat} (small : number < 2 ^ 53)
    : ∃ other : Binary64, other.IsNormal ∧ other.value = number := by
  rcases Nat.eq_zero_or_pos number with rfl | pos
  · exact ⟨⟨false, 0, 0⟩, Or.inl ⟨rfl, rfl⟩, by simp [value, value_magnitude]⟩
  · obtain ⟨low, high⟩ := Fraction.digitCount_bounds (show 1 < 2 by decide) pos
    have countPos : 0 < digitCount 2 number := Nat.length_toDigits_pos
    have few : digitCount 2 number ≤ 53 :=
      (Nat.length_toDigits_le_iff (by decide) (by decide)).mpr small
    obtain ⟨shift, sum⟩ := Nat.exists_eq_add_of_le few
    refine ⟨⟨false, number * 2 ^ shift, -shift⟩, Or.inr ⟨?_, ?_⟩, ?_⟩
    · have power : 52 = (digitCount 2 number - 1) + shift := by omega
      rw [power, pow_add]
      exact Nat.mul_le_mul_right _ low
    · rw [sum, pow_add]
      exact Nat.mul_lt_mul_of_pos_right high (by positivity)
    · simp [value, value_magnitude]

theorem value_ofInt_of_le {number : Nat} (small : number ≤ 2 ^ 53)
    : (ofInt number).value = number := by
  have nearest := (ofInt_isNearestEven number).toIsNearest
  rcases small.lt_or_eq with less | rfl
  · obtain ⟨other, normal, same⟩ := exists_isNormal less
    exact nearest.value_eq normal same
  · have normal : (⟨false, 2 ^ 52, 1⟩ : Binary64).IsNormal := Or.inr (by decide)
    apply nearest.value_eq normal
    norm_num [value, value_magnitude]

/-- Rounding an integer to the format does not carry it across one of at most 53 bits. -/
theorem le_value_ofInt_iff {bound : Nat} (small : bound ≤ 2 ^ 53) (number : Nat)
    : (bound : ℚ) ≤ (ofInt number).value ↔ bound ≤ number := by
  constructor
  · intro reached
    by_contra below
    rw [not_le] at below
    rw [value_ofInt_of_le (below.le.trans small)] at reached
    exact absurd reached (by exact_mod_cast below.not_ge)
  · intro le
    rw [← value_ofInt_of_le small]
    exact value_ofInt_le_value_ofInt le

-----------------------------------------------------------------------------------------
-- The end of the format
-----------------------------------------------------------------------------------------

/-- The half between the greatest number of the format and the power behind it, which is rounded to
the power: the least integer that is too large.
-/
def overflow : Nat := 2 ^ 1024 - 2 ^ 970

theorem overflow_eq : overflow = (2 ^ 54 - 1) * 2 ^ 970 := by
  rw [overflow, show 1024 = 54 + 970 from rfl, pow_add, Nat.sub_mul, Nat.one_mul]

/-- The numbers in the range of the format are those below the power behind its greatest one. -/
theorem inRange_iff {number : Binary64} (normal : number.IsNormal)
    : number.inRange ↔ |number.value| < (2 : ℚ) ^ (1024 : Int) := by
  rw [inRange, decide_eq_true_eq, precision, abs_value, ← value_magnitude]
  rcases normal with ⟨zero, zeroExponent⟩ | ⟨low, high⟩
  · rw [value_magnitude, zero, zeroExponent, Nat.cast_zero, zero_mul]
    exact iff_of_true (by decide) (zpow_pos (by norm_num) _)
  · obtain ⟨atLeast, below⟩ := magnitude_bounds low high
    constructor
    · intro within
      exact below.trans_le (zpow_le_zpow_right₀ (by norm_num) within)
    · intro less
      have exponents := (zpow_lt_zpow_iff_right₀ (by norm_num)).mp (atLeast.trans_lt less)
      omega

/-- Powers of two at the end of the format, as multiples of the distance between the half and the
numbers around it.
-/
theorem powers_at_end
    : (2 : ℚ) ^ (1024 : Int) = 2 ^ 54 * 2 ^ (970 : Int)
      ∧ (2 : ℚ) ^ (971 : Int) = 2 * 2 ^ (970 : Int)
      ∧ (overflow : ℚ) = (2 ^ 54 - 1) * 2 ^ (970 : Int) := by
  refine ⟨zpow_add₀ two_ne_zero 54 970, zpow_one_add₀ two_ne_zero 970, ?_⟩
  rw [overflow_eq, Nat.cast_mul, Nat.cast_pow, Nat.cast_ofNat]
  norm_num

/-- The least integer that is too large is rounded to the power, which has the even significand. -/
theorem value_ofInt_overflow : (ofInt overflow).value = (2 : ℚ) ^ (1024 : Int) := by
  have found : ofInt overflow = ⟨false, 2 ^ 52, 972⟩ := by decide +kernel
  rw [found, value, value_magnitude, if_neg Bool.false_ne_true, one_mul,
    show (2 : ℚ) ^ (1024 : Int) = 2 ^ 52 * 2 ^ (972 : Int) from zpow_add₀ two_ne_zero 52 972]
  norm_num

/-- An integer below the half is closer to the greatest number of the format than to anything from
the power on.
-/
theorem value_ofInt_lt_of_lt {number : Nat} (small : number < overflow)
    : (ofInt number).value < (2 : ℚ) ^ (1024 : Int) := by
  by_contra above
  rw [not_lt] at above
  obtain ⟨power, greatest, half⟩ := powers_at_end
  have unitPos : (0 : ℚ) < 2 ^ (970 : Int) := zpow_pos (by norm_num) _
  have below : (number : ℚ) < overflow := Nat.cast_lt.mpr small
  have normal : (⟨false, 2 ^ 53 - 1, 971⟩ : Binary64).IsNormal := Or.inr (by decide)
  have value_greatest : (⟨false, 2 ^ 53 - 1, 971⟩ : Binary64).value
      = (2 ^ 53 - 1) * 2 ^ (971 : Int) := by
    rw [value, value_magnitude, if_neg Bool.false_ne_true, one_mul]
    norm_num
  have closer := (ofInt_isNearestEven number).closest _ normal
  rw [value_greatest, greatest] at closer
  rw [power] at above
  rw [half] at below
  generalize (2 : ℚ) ^ (970 : Int) = unit at closer above below unitPos
  have midpoint := midpoint_le_of_closer closer (by linarith)
  linarith

/-- An integer is in the range of the format exactly when it is below the half at its end. -/
theorem inRange_ofInt_iff (number : Nat) : (ofInt number).inRange ↔ number < overflow := by
  have nonnegative : 0 ≤ (ofInt number).value := by
    rw [ofInt_natCast]
    exact value_nonneg (negative_nearest ..)
  rw [inRange_iff (ofInt_isNearestEven number).normal, abs_of_nonneg nonnegative]
  constructor
  · intro below
    by_contra large
    rw [not_lt] at large
    have reached := value_ofInt_le_value_ofInt large
    rw [value_ofInt_overflow] at reached
    exact absurd below reached.not_gt
  · exact value_ofInt_lt_of_lt

end Binary64

end Bytewise

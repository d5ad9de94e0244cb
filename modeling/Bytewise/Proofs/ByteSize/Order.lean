import Bytewise.Proofs.ByteSize.Rendering

/-! What the texts of sizes tell is in the order of the sizes, also across units: rounding may bring
a size up to the next unit, but not beyond. Only the few sizes that it does bring there are told as
1024 of a unit.
-/

namespace Bytewise.ByteSize

variable {size other : Nat}

-----------------------------------------------------------------------------------------
-- Hundredths of a unit
-----------------------------------------------------------------------------------------

theorem shownUnit_reached (pos : 0 < size)
    : 1024 ^ (shownUnit size).power ≤ (Binary64.ofInt size).value := by
  rcases (shownUnit_isUnitFor size).reached with first | reached
  · have one := (Binary64.le_value_ofInt_iff (show 1 ≤ 2 ^ 53 by decide) size).mpr pos
    simpa [first] using one
  · exact reached

theorem lt_next_unit (less : (shownUnit size).power < 3)
    : (Binary64.ofInt size).value < 1024 ^ ((shownUnit size).power + 1) := by
  by_contra reached
  have largest := (shownUnit_isUnitFor size).largest _ less (not_lt.mp reached)
  omega

/-- A unit that is reached is shown as at least one of it. -/
theorem hundred_le_shownHundredths
    (reached : 1024 ^ (shownUnit size).power ≤ (Binary64.ofInt size).value)
    : 100 ≤ shownHundredths size := by
  have unitPos : (0 : ℚ) < 1024 ^ (shownUnit size).power := by positivity
  have one := (one_le_div unitPos).mpr reached
  have target : ((100 : Int) : ℚ)
      ≤ (Binary64.ofInt size).value / 1024 ^ (shownUnit size).power * 100 := by
    push_cast
    linarith
  exact_mod_cast (shownHundredths_roundsToEven size).bound_le target

/-- No more of a unit are shown than make up the next one. -/
theorem shownHundredths_le (less : (shownUnit size).power < 3)
    : shownHundredths size ≤ 102400 := by
  have unitPos : (0 : ℚ) < 1024 ^ (shownUnit size).power := by positivity
  have below := lt_next_unit less
  rw [pow_succ, mul_comm] at below
  have part := (div_lt_iff₀ unitPos).mpr below
  have target : (Binary64.ofInt size).value / 1024 ^ (shownUnit size).power * 100
      ≤ ((102400 : Int) : ℚ) := by
    push_cast
    linarith
  exact_mod_cast (shownHundredths_roundsToEven size).le_bound target

-----------------------------------------------------------------------------------------
-- Numbers of bytes
-----------------------------------------------------------------------------------------

/-- The number of bytes that a text tells. -/
def shownBytes? (text : String) : Option ℚ :=
  (reading? text).map (fun (amount, power) => amount * 1024 ^ power)

/-- The number of bytes that a size is shown as. -/
def shownBytes (size : Nat) : ℚ :=
  shownHundredths size / 100 * 1024 ^ (shownUnit size).power

theorem shownBytes?_shownText (size : Nat)
    : shownBytes? (shownText size) = some (shownBytes size) := by
  rw [shownBytes?, reading?_shownText]
  rfl

/-- A larger size is not shown in a smaller unit. -/
theorem power_le_power (le : size ≤ other)
    : (shownUnit size).power ≤ (shownUnit other).power := by
  have isUnit := shownUnit_isUnitFor size
  rcases isUnit.reached with first | reached
  · omega
  · exact (shownUnit_isUnitFor other).largest _ isUnit.isUnit
      (reached.trans (Binary64.value_ofInt_le_value_ofInt le))

/-- Of one unit, a larger size is not shown as fewer hundredths. -/
theorem shownHundredths_le_shownHundredths (le : size ≤ other)
    (same : (shownUnit size).power = (shownUnit other).power)
    : shownHundredths size ≤ shownHundredths other := by
  have values := Binary64.value_ofInt_le_value_ofInt le
  have targets : (inHundredths (Binary64.ofInt size) (shownUnit size)).value
      ≤ (inHundredths (Binary64.ofInt other) (shownUnit other)).value := by
    rw [value_inHundredths (negative_ofInt size), value_inHundredths (negative_ofInt other), same]
    gcongr
  exact Fraction.round_le_round (den_inHundredths_pos _ _) (den_inHundredths_pos _ _) targets
    .toEven

/-- No more bytes are shown than make up one of the next unit. -/
theorem shownBytes_le_next_unit (less : (shownUnit size).power < 3)
    : shownBytes size ≤ 1024 ^ ((shownUnit size).power + 1) := by
  have unitPos : (0 : ℚ) < 1024 ^ (shownUnit size).power := by positivity
  have hundredths : (shownHundredths size : ℚ) ≤ 102400 := by exact_mod_cast shownHundredths_le less
  have units : (shownHundredths size / 100 : ℚ) ≤ 1024 := by linarith
  rw [shownBytes, pow_succ, mul_comm _ (1024 : ℚ)]
  exact mul_le_mul_of_nonneg_right units unitPos.le

/-- No fewer bytes are shown than make up one of the unit, if it is reached. -/
theorem unit_le_shownBytes
    (reached : 1024 ^ (shownUnit size).power ≤ (Binary64.ofInt size).value)
    : 1024 ^ (shownUnit size).power ≤ shownBytes size := by
  have unitPos : (0 : ℚ) < 1024 ^ (shownUnit size).power := by positivity
  have hundredths : (100 : ℚ) ≤ shownHundredths size := by
    exact_mod_cast hundred_le_shownHundredths reached
  have units : (1 : ℚ) ≤ shownHundredths size / 100 := by linarith
  rw [shownBytes]
  exact le_mul_of_one_le_left unitPos.le units

/-- Larger sizes are not shown as fewer bytes. Witness: in one unit the hundredths are in the order
of the sizes, and of two units the smaller one is shown up to the next unit only, which is not above
the larger one.
-/
theorem shownBytes_le_shownBytes (le : size ≤ other) : shownBytes size ≤ shownBytes other := by
  rcases (power_le_power le).lt_or_eq with less | same
  · have last := (shownUnit_isUnitFor other).isUnit
    have reached : 1024 ^ (shownUnit other).power ≤ (Binary64.ofInt other).value :=
      (shownUnit_isUnitFor other).reached.resolve_left (by omega)
    calc shownBytes size
      _ ≤ 1024 ^ ((shownUnit size).power + 1) := shownBytes_le_next_unit (by omega)
      _ ≤ 1024 ^ (shownUnit other).power := pow_le_pow_right₀ (by norm_num) less
      _ ≤ shownBytes other := unit_le_shownBytes reached
  · have hundredths : (shownHundredths size : ℚ) ≤ shownHundredths other := by
      exact_mod_cast shownHundredths_le_shownHundredths le same
    rw [shownBytes, shownBytes, same]
    gcongr

/-- The bytes that are shown are no more than a half of one percent away from the number of the
format. Witness: the hundredths are no more than a half away, and at least one of the unit is
reached, unless the size is zero, which is shown as it is.
-/
theorem shownBytes_close (size : Nat)
    : |shownBytes size - (Binary64.ofInt size).value| ≤ (Binary64.ofInt size).value / 200 := by
  rcases Nat.eq_zero_or_pos size with rfl | pos
  · have value : (Binary64.ofInt 0).value = 0 := by
      exact_mod_cast Binary64.value_ofInt_of_le (Nat.zero_le (2 ^ 53))
    have hundredths : shownHundredths 0 = 0 := by decide +kernel
    simp [shownBytes, hundredths, value]
  · have unitPos : (0 : ℚ) < 1024 ^ (shownUnit size).power := by positivity
    have reached := shownUnit_reached pos
    have rounded := (shownHundredths_roundsToEven size).within
    have hundredth : shownBytes size - (Binary64.ofInt size).value
        = (shownHundredths size - (Binary64.ofInt size).value / 1024 ^ (shownUnit size).power * 100)
          * (1024 ^ (shownUnit size).power / 100) := by
      rw [shownBytes]
      field_simp
    rw [Int.cast_natCast] at rounded
    rw [hundredth, abs_mul, abs_of_pos (div_pos unitPos (by norm_num))]
    calc _
      _ ≤ 1 / 2 * ((1024 : ℚ) ^ (shownUnit size).power / 100) := by gcongr
      _ ≤ (Binary64.ofInt size).value / 200 := by linarith

/-- Of two sizes that are not too large for the format both have a text, and the text of the larger
one does not tell fewer bytes. Neither text tells a number of bytes that is more than a half of one
percent away from the number of the format.
-/
theorem describe?_monotone {size other : Int} (nonnegative : 0 ≤ size) (le : size ≤ other)
    (fits : other < Binary64.overflow)
    : ∃ text otherText bytes otherBytes,
        describe? size = some text
        ∧ describe? other = some otherText
        ∧ shownBytes? text = some bytes
        ∧ shownBytes? otherText = some otherBytes
        ∧ bytes ≤ otherBytes
        ∧ |bytes - (Binary64.ofInt size).value| ≤ (Binary64.ofInt size).value / 200
        ∧ |otherBytes - (Binary64.ofInt other).value| ≤ (Binary64.ofInt other).value / 200 := by
  obtain ⟨size, rfl⟩ := Int.eq_ofNat_of_zero_le nonnegative
  obtain ⟨other, rfl⟩ := Int.eq_ofNat_of_zero_le (nonnegative.trans le)
  have sizes : size ≤ other := Int.ofNat_le.mp le
  have otherFits : other < Binary64.overflow := Int.ofNat_lt.mp fits
  exact ⟨shownText size, shownText other, shownBytes size, shownBytes other,
    describe?_natCast (Nat.lt_of_le_of_lt sizes otherFits), describe?_natCast otherFits,
    shownBytes?_shownText size, shownBytes?_shownText other, shownBytes_le_shownBytes sizes,
    shownBytes_close size, shownBytes_close other⟩

/-- The last number of kilobytes is told as the first number of megabytes. -/
theorem describe?_monotone_megabyte
    : (0 : Int) ≤ 1048575 ∧ (1048575 : Int) ≤ 1048576 ∧ (1048576 : Int) < Binary64.overflow
      ∧ ∃ text otherText bytes otherBytes,
          describe? 1048575 = some text
          ∧ describe? 1048576 = some otherText
          ∧ shownBytes? text = some bytes
          ∧ shownBytes? otherText = some otherBytes
          ∧ bytes ≤ otherBytes
          ∧ |bytes - (Binary64.ofInt 1048575).value| ≤ (Binary64.ofInt 1048575).value / 200
          ∧ |otherBytes - (Binary64.ofInt 1048576).value|
            ≤ (Binary64.ofInt 1048576).value / 200 := by
  have fits : (1048576 : Int) < Binary64.overflow := by decide +kernel
  exact ⟨by decide, by decide, fits, describe?_monotone (by decide) (by decide) fits⟩

-----------------------------------------------------------------------------------------
-- Whole units
-----------------------------------------------------------------------------------------

/-- Sizes below a gigabyte are shown from their exact value. -/
theorem value_ofInt_of_power_lt (less : (shownUnit size).power < 3)
    : (Binary64.ofInt size).value = size := by
  have small : size < 1024 ^ 3 := by
    by_contra large
    have reached := (Binary64.le_value_ofInt_iff (show 1024 ^ 3 ≤ 2 ^ 53 by decide) size).mpr
      (not_lt.mp large)
    push_cast at reached
    have largest := (shownUnit_isUnitFor size).largest 3 le_rfl reached
    omega
  exact Binary64.value_ofInt_of_le (small.le.trans (by decide))

/-- All 1024 of a unit are shown from half of a hundredth before the next unit on, where the tie is
rounded up because the whole is even.
-/
theorem all_le_shownHundredths_iff (less : (shownUnit size).power < 3)
    : 102400 ≤ shownHundredths size ↔ 204799 * 1024 ^ (shownUnit size).power ≤ 200 * size := by
  have unitPos : (0 : ℚ) < 1024 ^ (shownUnit size).power := by positivity
  have even : Even (102400 : Int) := by decide
  have whole := (shownHundredths_roundsToEven size).bound_le_iff even
  rw [value_ofInt_of_power_lt less, div_mul_eq_mul_div, le_div_iff₀ unitPos] at whole
  have halves : ((102400 : Int) : ℚ) - 1 / 2 = 204799 / 2 := by norm_num
  have doubled : (204799 / 2 : ℚ) * 1024 ^ (shownUnit size).power ≤ size * 100
      ↔ (204799 * 1024 ^ (shownUnit size).power : ℚ) ≤ 200 * size := by
    constructor <;> intro le <;> linarith
  rw [halves, doubled] at whole
  exact_mod_cast whole

/-- The sizes that are short of a megabyte or of a gigabyte by half of a hundredth or less, of the
unit below.
-/
def IsAlmostNext (size : Int) : Prop :=
  1048571 ≤ size ∧ size < 1024 ^ 2 ∨ 1073736582 ≤ size ∧ size < 1024 ^ 3

/-- All 1024 of a unit are shown only of sizes that are almost one of the next unit, by the units.
-/
theorem shownHundredths_lt_iff (pos : 0 < size) (less : (shownUnit size).power < 3)
    : shownHundredths size < 102400 ↔ ¬ IsAlmostNext size := by
  have reached := shownUnit_reached pos
  have below := lt_next_unit less
  have whole := all_le_shownHundredths_iff less
  rw [value_ofInt_of_power_lt less] at reached below
  have low : 1024 ^ (shownUnit size).power ≤ size := by exact_mod_cast reached
  have high : size < 1024 ^ ((shownUnit size).power + 1) := by exact_mod_cast below
  rw [← not_le, whole, not_iff_not, IsAlmostNext]
  cases unit : shownUnit size with
  | gigabytes => simp [unit, SizeUnit.power] at less
  | bytes | kilobytes | megabytes =>
      simp only [unit, SizeUnit.power] at low high ⊢
      omega

/-- Every positive size that is not too large for the format is told as at least one of its unit. It
is told as less than 1024 of a unit that has a next one, unless it is almost one of the next unit.
-/
theorem reading_within_unit {size : Int} (pos : 0 < size) (fits : size < Binary64.overflow)
    : ∃ text amount power,
        describe? size = some text
        ∧ reading? text = some (amount, power)
        ∧ 1 ≤ amount
        ∧ (power < 3 → amount ≤ 1024 ∧ (amount < 1024 ↔ ¬ IsAlmostNext size)) := by
  obtain ⟨size, rfl⟩ := Int.eq_ofNat_of_zero_le pos.le
  have sizePos : 0 < size := Int.natCast_pos.mp pos
  refine ⟨shownText size, shownHundredths size / 100, (shownUnit size).power,
    describe?_natCast (Int.ofNat_lt.mp fits), reading?_shownText size, ?_, ?_⟩
  · have hundred : (100 : ℚ) ≤ shownHundredths size := by
      exact_mod_cast hundred_le_shownHundredths (shownUnit_reached sizePos)
    linarith
  · intro less
    have most : (shownHundredths size : ℚ) ≤ 102400 := by exact_mod_cast shownHundredths_le less
    have part : (shownHundredths size / 100 : ℚ) < 1024 ↔ shownHundredths size < 102400 := by
      rw [div_lt_iff₀ (by norm_num)]
      norm_num
    exact ⟨by linarith, part.trans (shownHundredths_lt_iff sizePos less)⟩

/-- The greatest number of kilobytes that is told as less than 1024 of them. -/
theorem reading_within_unit_kilobytes
    : (0 : Int) < 1048570 ∧ (1048570 : Int) < Binary64.overflow
      ∧ ∃ text amount power,
          describe? 1048570 = some text
          ∧ reading? text = some (amount, power)
          ∧ 1 ≤ amount
          ∧ (power < 3 → amount ≤ 1024 ∧ (amount < 1024 ↔ ¬ IsAlmostNext 1048570)) := by
  have fits : (1048570 : Int) < Binary64.overflow := by decide +kernel
  exact ⟨by decide, fits, reading_within_unit (by decide) fits⟩

/-- One byte short of a megabyte is told as 1024 kilobytes, so it is not true of every size that
less than 1024 of a unit are told where there is a next one.
-/
theorem reading_not_below_next_unit
    : describe? 1048575 = some "1024 KB"
      ∧ reading? "1024 KB" = some (1024, 1)
      ∧ ¬ ∀ (size : Int) (text : String) (amount : ℚ) (power : Nat),
          0 < size → size < Binary64.overflow → describe? size = some text
          → reading? text = some (amount, power) → power < 3
          → 1 ≤ amount ∧ amount < 1024 := by
  have told : describe? 1048575 = some "1024 KB" := by decide +kernel
  have read : reading? "1024 KB" = some (1024, 1) := by decide +kernel
  refine ⟨told, read, ?_⟩
  intro always
  have within : (1 : ℚ) ≤ 1024 ∧ (1024 : ℚ) < 1024 :=
    always 1048575 "1024 KB" 1024 1 (by decide) (by decide +kernel) told read (by decide)
  exact lt_irrefl _ within.2

end Bytewise.ByteSize

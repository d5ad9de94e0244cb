import Bytewise.Proofs.ByteSize.Reading
import Bytewise.Proofs.Decimal.TiesToEven

/-! What the text of a size stands for. The size is rounded twice with ties to even: to the binary
format, where the unit is chosen, and to hundredths of that unit.
-/

namespace Bytewise

/-- A fraction is at least a number exactly when its value is. -/
theorem Fraction.atLeast_iff {fraction : Fraction} (pos : 0 < fraction.den) (number : Nat)
    : fraction.atLeast number ↔ (number : ℚ) ≤ fraction.value := by
  have denPos : (0 : ℚ) < fraction.den := by exact_mod_cast pos
  rw [atLeast, decide_eq_true_eq, value, le_div_iff₀ denPos]
  exact_mod_cast Iff.rfl

theorem Binary64.value_of_not_negative {number : Binary64} (positive : number.negative = false)
    : number.value = number.magnitude.value := by
  rw [value, positive, if_neg Bool.false_ne_true, one_mul]

namespace ByteSize

open Json Reader

-----------------------------------------------------------------------------------------
-- Units
-----------------------------------------------------------------------------------------

/-- The place of a unit among the units. -/
def SizeUnit.power : SizeUnit → Nat
  | .bytes => 0
  | .kilobytes => 1
  | .megabytes => 2
  | .gigabytes => 3

theorem SizeUnit.factor_eq (unit : SizeUnit) : unit.factor = 1024 ^ unit.power := by
  cases unit <;> rfl

theorem SizeUnit.unitNames_power (unit : SizeUnit)
    : unitNames[unit.power]? = some unit.name
      ∧ unitNames.idxOf? unit.name = some unit.power := by
  cases unit <;> exact ⟨rfl, by decide⟩

/-- The place of the largest unit that a number of bytes reaches, or of bytes if it reaches none. -/
structure IsUnitFor (power : Nat) (bytes : ℚ) : Prop where
  isUnit : power ≤ 3
  reached : power = 0 ∨ 1024 ^ power ≤ bytes
  largest : ∀ other ≤ 3, 1024 ^ other ≤ bytes → other ≤ power

/-- A unit that is not reached is above every one that is. -/
theorem lt_of_not_reached {bytes : ℚ} {power other : Nat} (missed : ¬ 1024 ^ power ≤ bytes)
    (reached : 1024 ^ other ≤ bytes)
    : other < power := by
  by_contra above
  have powers : (1024 : ℚ) ^ power ≤ 1024 ^ other :=
    pow_le_pow_right₀ (by norm_num) (Nat.le_of_not_lt above)
  exact missed (powers.trans reached)

/-- The unit that is chosen is the largest one; witness: they are tried from the largest on. -/
theorem unitFor_isUnitFor {number : Binary64} (positive : number.negative = false)
    : IsUnitFor (unitFor number).power number.value := by
  have reaches (unit : SizeUnit)
      : number.magnitude.atLeast unit.factor ↔ 1024 ^ unit.power ≤ number.value := by
    rw [Fraction.atLeast_iff number.den_magnitude_pos, unit.factor_eq,
      Binary64.value_of_not_negative positive]
    push_cast
    exact Iff.rfl
  have chosen : unitFor number
      = if number.magnitude.atLeast SizeUnit.gigabytes.factor then .gigabytes
        else if number.magnitude.atLeast SizeUnit.megabytes.factor then .megabytes
        else if number.magnitude.atLeast SizeUnit.kilobytes.factor then .kilobytes
        else .bytes := by
    rw [unitFor, positive, if_neg Bool.false_ne_true]
    simp only [List.find?_cons, List.find?_nil]
    split_ifs <;> simp [*]
  simp only [reaches, SizeUnit.power] at chosen
  rw [chosen]
  split_ifs with gigabytes megabytes kilobytes
  · exact ⟨by decide, Or.inr gigabytes, fun other most _ => most⟩
  · exact ⟨by decide, Or.inr megabytes,
      fun _ _ reached => Nat.lt_succ_iff.mp (lt_of_not_reached gigabytes reached)⟩
  · exact ⟨by decide, Or.inr kilobytes,
      fun _ _ reached => Nat.lt_succ_iff.mp (lt_of_not_reached megabytes reached)⟩
  · exact ⟨by decide, Or.inl rfl,
      fun _ _ reached => Nat.lt_succ_iff.mp (lt_of_not_reached kilobytes reached)⟩

-----------------------------------------------------------------------------------------
-- Hundredths
-----------------------------------------------------------------------------------------

/-- The hundredths of a unit that are in a number of bytes, before they are rounded. -/
def inHundredths (number : Binary64) (unit : SizeUnit) : Fraction :=
  ⟨number.magnitude.num * 100, number.magnitude.den * unit.factor⟩

theorem value_inHundredths {number : Binary64} (positive : number.negative = false)
    (unit : SizeUnit)
    : (inHundredths number unit).value = number.value / 1024 ^ unit.power * 100 := by
  rw [Binary64.value_of_not_negative positive, inHundredths, Fraction.value, Fraction.value,
    unit.factor_eq]
  push_cast
  ring

theorem den_inHundredths_pos (number : Binary64) (unit : SizeUnit)
    : 0 < (inHundredths number unit).den := by
  have factorPos : 0 < unit.factor := by cases unit <;> decide
  exact Nat.mul_pos number.den_magnitude_pos factorPos

/-- Hundredths are rounded once from what the number is in its unit, with ties to even. -/
theorem hundredthsOf_roundsToEven {number : Binary64} (positive : number.negative = false)
    (unit : SizeUnit)
    : RoundsToEven (hundredthsOf number unit) (number.value / 1024 ^ unit.power * 100) := by
  rw [← value_inHundredths positive unit]
  exact Fraction.round_toEven (den_inHundredths_pos number unit)

-----------------------------------------------------------------------------------------
-- Sizes
-----------------------------------------------------------------------------------------

section

variable (size : Nat)

/-- The unit that a size is shown in. -/
def shownUnit : SizeUnit := unitFor (Binary64.ofInt size)

/-- The hundredths of its unit that a size is shown as. -/
def shownHundredths : Nat := hundredthsOf (Binary64.ofInt size) (shownUnit size)

/-- The text that a size is shown as: a numeral and the name of a unit. -/
def shownText : String :=
  String.ofList (trimmed (shownHundredths size)).toList ++ " " ++ (shownUnit size).name

theorem negative_ofInt : (Binary64.ofInt size).negative = false := by
  rw [Binary64.ofInt_natCast, Binary64.negative_nearest]

theorem shownUnit_isUnitFor : IsUnitFor (shownUnit size).power (Binary64.ofInt size).value :=
  unitFor_isUnitFor (negative_ofInt size)

theorem shownHundredths_roundsToEven
    : RoundsToEven (shownHundredths size)
        ((Binary64.ofInt size).value / 1024 ^ (shownUnit size).power * 100) :=
  hundredthsOf_roundsToEven (negative_ofInt size) (shownUnit size)

/-- The text is read as the hundredths and the unit. -/
theorem reading?_shownText
    : reading? (shownText size)
      = some ((shownHundredths size / 100 : ℚ), (shownUnit size).power) := by
  rw [shownText, reading?_numeral (trimmed_spells _) (shownUnit size).unitNames_power.2,
    value_literalOf]

end

/-- Every size that is not too large for the format is shown. -/
theorem describe?_natCast {size : Nat} (fits : size < Binary64.overflow)
    : describe? size = some (shownText size) := by
  rw [describe?, if_pos ((Binary64.inRange_ofInt_iff size).mpr fits), describe,
    Binary64.signText, negative_ofInt, if_neg Bool.false_ne_true, shownText, String.ofList_toList]
  simp [shownHundredths, shownUnit]

/-- What the text of a size tells. The number is the one of the format that is nearest to the size,
and the hundredths are those of its largest unit, both with ties to even. The numeral stands for the
hundredths, has no zero to spare behind its point, and has every digit of its whole units.
-/
structure Tells (size : Int) (number : Binary64) (power hundredths : Nat)
    (numeral : List Char) (literal : Literal) : Prop where
  nearest : number.IsNearestEven size
  exact : size ≤ 2 ^ 53 → number.value = size
  unit : IsUnitFor power number.value
  rounded : RoundsToEven hundredths (number.value / 1024 ^ power * 100)
  isNumeral : IsNumeral numeral literal
  value : literal.value = hundredths / 100
  whole : literal.whole = Nat.toDigits 10 (hundredths / 100)

/-- Every positive size that is not too large for the format has a text: a numeral, a blank and the
name of a unit, which tell the size in hundredths of the largest unit that it reaches.
-/
theorem describe?_tells {size : Int} (pos : 0 < size) (fits : size < Binary64.overflow)
    : ∃ number power hundredths numeral literal name,
        unitNames[power]? = some name
        ∧ describe? size = some (String.ofList numeral ++ " " ++ name)
        ∧ Tells size number power hundredths numeral literal := by
  obtain ⟨size, rfl⟩ := Int.eq_ofNat_of_zero_le pos.le
  refine ⟨Binary64.ofInt size, (shownUnit size).power, shownHundredths size,
    (trimmed (shownHundredths size)).toList, literalOf (shownHundredths size),
    (shownUnit size).name, (shownUnit size).unitNames_power.1,
    describe?_natCast (by exact_mod_cast fits), ?_⟩
  exact {
    nearest := Binary64.ofInt_isNearestEven size
    exact := fun small => Binary64.value_ofInt_of_le (by exact_mod_cast small)
    unit := shownUnit_isUnitFor size
    rounded := shownHundredths_roundsToEven size
    isNumeral := trimmed_isNumeral _
    value := value_literalOf _
    whole := rfl
  }

/-- A number of kilobytes with half of a hundredth, which the even hundredth gets. -/
theorem describe?_tells_half
    : (0 : Int) < 1152 ∧ (1152 : Int) < Binary64.overflow
      ∧ describe? 1152 = some "1.12 KB"
      ∧ ∃ number power hundredths numeral literal name,
          unitNames[power]? = some name
          ∧ describe? 1152 = some (String.ofList numeral ++ " " ++ name)
          ∧ Tells 1152 number power hundredths numeral literal := by
  have fits : (1152 : Int) < Binary64.overflow := by decide +kernel
  exact ⟨by decide, fits, by decide +kernel, describe?_tells (by decide) fits⟩

end ByteSize

end Bytewise

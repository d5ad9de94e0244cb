import Bytewise.ByteSize
import Bytewise.Proofs.Json.Numbers

/-! What the text of a size tells is read back from it: a number and a unit. The number is written
in the digits of its hundredths, and a zero is left out only behind the point.
-/

namespace Bytewise

open Json Reader

/-- The number that is written. -/
def Json.Reader.Literal.value (literal : Literal) : ℚ :=
  (if literal.negative then -1 else 1) * literal.decimal.magnitude.value

namespace ByteSize

/-- The names of the units, each 1024 of the one before. -/
def unitNames : List String := ["Bytes", "KB", "MB", "GB"]

/-- The number that a text tells, and the place of its unit among the units. -/
def reading? (text : String) : Option (ℚ × Nat) :=
  match literal? text.toList with
  | some (literal, ' ' :: name) =>
      (unitNames.idxOf? (String.ofList name)).map (fun power => (literal.value, power))
  | _ => none

/-- A numeral without a sign and an exponent, and without a zero at the end behind its point. -/
structure IsNumeral (numeral : List Char) (literal : Literal) : Prop where
  spells : Spells numeral literal
  unsigned : literal.negative = false
  plain : literal.exponent = none
  trimmed : ∀ digits, literal.fraction = some digits → digits.getLast? ≠ some '0'

-----------------------------------------------------------------------------------------
-- Hundredths
-----------------------------------------------------------------------------------------

/-- The digits behind the point for some hundredths, if there have to be any. -/
def digitsBehind? (hundredths : Nat) : Option (List Char) :=
  if hundredths % 100 = 0 then none
  else if hundredths % 10 = 0 then some [(hundredths / 10 % 10).digitChar]
  else some [(hundredths / 10 % 10).digitChar, (hundredths % 10).digitChar]

/-- The parts that some hundredths are written in. -/
def literalOf (hundredths : Nat) : Literal where
  negative := false
  whole := Nat.toDigits 10 (hundredths / 100)
  fraction := digitsBehind? hundredths
  exponent := none

/-- Behind the whole units stand a point and the digits behind it, or nothing. -/
theorem trimmed_spells (hundredths : Nat)
    : Spells (trimmed hundredths).toList (literalOf hundredths) := by
  have tenth : hundredths / 10 % 10 < 10 := Nat.mod_lt _ (by decide)
  have last : hundredths % 10 < 10 := Nat.mod_lt _ (by decide)
  have isWhole := toDigits_isWhole (hundredths / 100)
  rw [trimmed, literalOf, digitsBehind?]
  by_cases whole : hundredths % 100 = 0
  · rw [if_pos whole, if_pos whole]
    exact ⟨isWhole, .absent, .absent, by simp [signChars]⟩
  · rw [if_neg whole, if_neg whole]
    by_cases tenths : hundredths % 10 = 0
    · rw [if_pos tenths, if_pos tenths]
      refine ⟨isWhole, .present ⟨by simp, ?_⟩, .absent, ?_⟩
      · simp [Nat.isDigit_digitChar, tenth]
      · simp [signChars, Nat.toDigits_of_lt_base tenth]
    · rw [if_neg tenths, if_neg tenths]
      refine ⟨isWhole, .present ⟨by simp, ?_⟩, .absent, ?_⟩
      · simp [Nat.isDigit_digitChar, tenth, last]
      · simp [signChars, Nat.toDigits_of_lt_base tenth, Nat.toDigits_of_lt_base last]

/-- No zero stands at the end behind the point. -/
theorem trimmed_isNumeral (hundredths : Nat)
    : IsNumeral (trimmed hundredths).toList (literalOf hundredths) where
  spells := trimmed_spells hundredths
  unsigned := rfl
  plain := rfl
  trimmed := by
    intro digits behind
    simp only [literalOf, digitsBehind?] at behind
    split_ifs at behind with whole tenths
    · obtain rfl := Option.some.inj behind
      simp [Nat.digitChar_eq_zero]
      omega
    · obtain rfl := Option.some.inj behind
      simp [Nat.digitChar_eq_zero]
      omega

/-- Filled up to two digits behind the point, the digits are those of the hundredths. -/
theorem ofDigitChars_digitsBehind (hundredths : Nat)
    : (literalOf hundredths).behindPoint.length ≤ 2
      ∧ Nat.ofDigitChars 10 (literalOf hundredths).behindPoint (hundredths / 100)
          * 10 ^ (2 - (literalOf hundredths).behindPoint.length)
        = hundredths := by
  have tenth : hundredths / 10 % 10 < 10 := Nat.mod_lt _ (by decide)
  have last : hundredths % 10 < 10 := Nat.mod_lt _ (by decide)
  simp only [Literal.behindPoint, literalOf, digitsBehind?]
  split_ifs with whole tenths
  · simp
    omega
  · simp [Nat.ofDigitChars_cons_digitChar_of_lt_ten tenth]
    omega
  · simp [Nat.ofDigitChars_cons_digitChar_of_lt_ten tenth,
      Nat.ofDigitChars_cons_digitChar_of_lt_ten last]
    omega

/-- The parts stand for the hundredths. -/
theorem value_literalOf (hundredths : Nat)
    : (literalOf hundredths).value = hundredths / 100 := by
  obtain ⟨few, digits⟩ := ofDigitChars_digitsBehind hundredths
  obtain ⟨missing, sum⟩ := Nat.exists_eq_add_of_le few
  have coefficient : (literalOf hundredths).decimal.coefficient
      = Nat.ofDigitChars 10 (literalOf hundredths).behindPoint (hundredths / 100) := by
    have whole : Nat.ofDigitChars 10 (literalOf hundredths).whole 0 = hundredths / 100 :=
      Nat.ofDigitChars_ten_toDigits
    rw [Literal.decimal, Nat.ofDigitChars_append, whole]
  have exponent : (literalOf hundredths).decimal.exponent = (missing : Int) - 2 := by
    change 0 - ((literalOf hundredths).behindPoint.length : Int) = _
    omega
  have shift : 2 - (literalOf hundredths).behindPoint.length = missing := by omega
  rw [Literal.value, show (literalOf hundredths).negative = false from rfl,
    if_neg Bool.false_ne_true, one_mul, Decimal.value_magnitude, coefficient, exponent,
    zpow_sub₀ (by norm_num), zpow_natCast, ← mul_div_assoc]
  rw [shift] at digits
  rw [show (hundredths : ℚ) = _ from congrArg Nat.cast digits.symm]
  push_cast
  norm_num

-----------------------------------------------------------------------------------------
-- Texts
-----------------------------------------------------------------------------------------

/-- A numeral, a blank and a unit's name are read as the number and the unit. -/
theorem reading?_numeral {numeral : List Char} {literal : Literal} {name : String} {power : Nat}
    (spells : Spells numeral literal) (unit : unitNames.idxOf? name = some power)
    : reading? (String.ofList numeral ++ " " ++ name) = some (literal.value, power) := by
  have ends : EndsNumber (' ' :: name.toList) := .cons (by decide) _
  have text : (String.ofList numeral ++ " " ++ name).toList = numeral ++ ' ' :: name.toList := by
    simp
  rw [reading?, text, spells.reads ends]
  simp [unit]

end ByteSize

end Bytewise

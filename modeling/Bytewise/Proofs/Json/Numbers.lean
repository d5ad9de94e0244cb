import Bytewise.Json.Printer
import Bytewise.Proofs.Decimal.ReadBack
import Bytewise.Proofs.Json.Literals

/-! A written number is read back. An integer is written in its digits. Any other number is written
as a decimal that is nearest to it, in one of four ways of placing the point.
-/

namespace Bytewise.Json

open Reader

variable {digits : List Char}

theorem toDigits_isDigits (number : Nat) : IsDigits (Nat.toDigits 10 number) where
  nonempty := Nat.toDigits_ne_nil
  all := fun _ mem => Nat.isDigit_of_mem_toDigits (by decide) (by decide) mem

theorem toDigits_isWhole (number : Nat) : IsWhole (Nat.toDigits 10 number) where
  toIsDigits := toDigits_isDigits number
  unpadded := by
    intro head
    rw [← List.map_id (Nat.toDigits 10 number)] at head
    rw [Text.eq_zero_of_head?_toDigits (by decide) (by decide) head]
    rfl

/-- An integer is written as its sign and its digits. -/
theorem spells_integer (value : Int)
    : ∃ literal, Spells (toString value).toList literal ∧ literal.toJson = .integer value := by
  have plain (negative : Bool) (number : Nat)
      : Spells (signChars negative ++ Nat.toDigits 10 number)
          ⟨negative, Nat.toDigits 10 number, none, none⟩ :=
    ⟨toDigits_isWhole number, .absent, .absent, by simp⟩
  have toJson (negative : Bool) (number : Nat)
      : Literal.toJson ⟨negative, Nat.toDigits 10 number, none, none⟩
        = .integer (signed negative number) := by
    rw [Literal.toJson, if_pos ⟨rfl, rfl⟩, Nat.ofDigitChars_ten_toDigits]
  cases value with
  | ofNat number =>
      have text : (toString (Int.ofNat number)).toList = Nat.toDigits 10 number := Nat.toList_repr
      rw [text]
      exact ⟨_, plain false number, toJson false number⟩
  | negSucc number =>
      have text : (toString (Int.negSucc number)).toList
          = '-' :: Nat.toDigits 10 (number + 1) := by
        change ("-" ++ Nat.repr (number + 1)).toList = _
        rw [String.toList_append, Nat.toList_repr]
        rfl
      rw [text]
      exact ⟨_, plain true (number + 1), toJson true (number + 1)⟩

/-- The parts of a text that writes a decimal with a sign, and not as an integer. -/
structure WritesDecimal (negative : Bool) (decimal : Decimal) (text : List Char)
    (literal : Literal) : Prop where
  spells : Spells (signChars negative ++ text) literal
  sign : literal.negative = negative
  value : literal.decimal.magnitude.value = decimal.magnitude.value
  notInteger : ¬ (literal.fraction.isNone ∧ literal.exponent.isNone)

section Layout

variable {decimal : Decimal} (negative : Bool)

/-- A text with the decimal's own digits and as many of them behind the point as its exponent and
the written one tell.
-/
theorem WritesDecimal.of_digits {negative : Bool} {literal : Literal} {text : List Char}
    (spells : Spells (signChars negative ++ text) literal) (sign : literal.negative = negative)
    (notInteger : ¬ (literal.fraction.isNone ∧ literal.exponent.isNone))
    (coefficient
      : Nat.ofDigitChars 10 (literal.whole ++ literal.behindPoint) 0 = decimal.coefficient)
    (exponent : literal.exponent.getD 0 - literal.behindPoint.length = decimal.exponent)
    : WritesDecimal negative decimal text literal where
  spells := spells
  sign := sign
  value := by rw [Literal.decimal, coefficient, exponent]
  notInteger := notInteger

theorem digits_isDigits (decimal : Decimal) : IsDigits decimal.digits :=
  toDigits_isDigits decimal.coefficient

theorem ofDigitChars_digits (decimal : Decimal)
    : Nat.ofDigitChars 10 decimal.digits 0 = decimal.coefficient :=
  Nat.ofDigitChars_ten_toDigits

theorem ofDigitChars_zeros_append (count : Nat) (digits : List Char)
    : Nat.ofDigitChars 10 (List.replicate count '0' ++ digits) 0
      = Nat.ofDigitChars 10 digits 0 := by
  rw [Nat.ofDigitChars_append, Nat.ofDigitChars_replicate_zero, Nat.mul_zero]

theorem isDigit_of_mem_zeros (count : Nat) : ∀ c ∈ List.replicate count '0', c.isDigit := by
  intro c mem
  rw [List.eq_of_mem_replicate mem]
  rfl

theorem IsDigits.append {front : List Char} (all : ∀ c ∈ front, c.isDigit)
    (isDigits : IsDigits digits)
    : IsDigits (front ++ digits) where
  nonempty := by simp [isDigits.nonempty]
  all := fun c mem => (List.mem_append.mp mem).elim (all c) (isDigits.all c)

theorem head?_digits (nonzero : decimal.coefficient ≠ 0) : decimal.digits.head? ≠ some '0' := by
  intro head
  apply nonzero
  rw [← ofDigitChars_digits, Decimal.digits,
    (toDigits_isWhole decimal.coefficient).unpadded head]
  rfl

theorem IsDigits.isWhole (isDigits : IsDigits digits) (head : digits.head? ≠ some '0')
    : IsWhole digits :=
  ⟨isDigits, fun zero => absurd zero head⟩

theorem take_digits_isWhole (nonzero : decimal.coefficient ≠ 0) {count : Nat} (pos : 0 < count)
    : IsWhole (decimal.digits.take count) := by
  have digits := digits_isDigits decimal
  apply IsDigits.isWhole ⟨?_, fun c mem => digits.all c (List.mem_of_mem_take mem)⟩
  · rw [List.head?_take, if_neg pos.ne']
    exact head?_digits nonzero
  · simp [digits.nonempty, pos.ne']

theorem drop_digits_isDigits {count : Nat} (nonempty : decimal.digits.drop count ≠ [])
    : IsDigits (decimal.digits.drop count) where
  nonempty := nonempty
  all := fun c mem => (digits_isDigits decimal).all c (List.mem_of_mem_drop mem)

/-- Below one, all digits stand behind the point. -/
theorem positional_small (small : decimal.point ≤ 0)
    : WritesDecimal negative decimal decimal.positional
        ⟨negative, ['0'], some (List.replicate (-decimal.point).toNat '0' ++ decimal.digits),
          none⟩ := by
  refine .of_digits ⟨⟨⟨List.cons_ne_nil _ _, by simp⟩, fun _ => rfl⟩, .present ?_, .absent, ?_⟩
    rfl (by simp) ?_ ?_
  · exact (digits_isDigits decimal).append (isDigit_of_mem_zeros _)
  · simp [Decimal.positional, small]
  · change Nat.ofDigitChars 10
      (List.replicate ((-decimal.point).toNat + 1) '0' ++ decimal.digits) 0 = _
    rw [ofDigitChars_zeros_append, ofDigitChars_digits]
  · rw [Literal.behindPoint, Option.getD_some, Option.getD_none, List.length_append,
      List.length_replicate]
    rw [Decimal.point] at small ⊢
    omega

/-- A whole number has zeros behind its digits, and one more behind the point. -/
theorem positional_whole (nonzero : decimal.coefficient ≠ 0) (pos : 0 < decimal.point)
    (whole : decimal.digits.length ≤ decimal.point.toNat)
    : WritesDecimal negative decimal decimal.positional
        ⟨negative,
          decimal.digits
            ++ List.replicate (decimal.point.toNat - decimal.digits.length) '0',
          some ['0'], none⟩ where
  spells := by
    have digits := digits_isDigits decimal
    refine ⟨IsDigits.isWhole ⟨by simp [digits.nonempty], ?_⟩ ?_,
      .present ⟨List.cons_ne_nil _ _, by simp⟩, .absent, ?_⟩
    · intro c mem
      exact (List.mem_append.mp mem).elim (digits.all c) (isDigit_of_mem_zeros _ c)
    · rw [List.head?_append_of_ne_nil _ digits.nonempty]
      exact head?_digits nonzero
    · simp [Decimal.positional, whole, Int.not_le.mpr pos]
  sign := rfl
  value := by
    obtain ⟨zeros, count⟩ : ∃ zeros, decimal.point.toNat - decimal.digits.length = zeros := ⟨_, rfl⟩
    have exponent : decimal.exponent = (zeros : Int) := by
      rw [Decimal.point] at pos whole count
      omega
    have coefficient : Nat.ofDigitChars 10
        (decimal.digits ++ List.replicate zeros '0' ++ ['0']) 0
        = 10 ^ (zeros + 1) * decimal.coefficient := by
      rw [List.append_assoc, ← List.replicate_succ', Nat.ofDigitChars_append,
        Nat.ofDigitChars_replicate_zero, ofDigitChars_digits]
    rw [Decimal.value_magnitude, Decimal.value_magnitude, count]
    dsimp only [Literal.decimal, Literal.behindPoint, Option.getD_some, Option.getD_none]
    rw [coefficient, exponent]
    push_cast
    rw [List.length_singleton, Int.zero_sub, Nat.cast_one, zpow_neg, zpow_one, zpow_natCast,
      pow_succ]
    ring
  notInteger := by simp

/-- Other numbers have the point among their digits. -/
theorem positional_split (nonzero : decimal.coefficient ≠ 0) (pos : 0 < decimal.point)
    (split : ¬ decimal.digits.length ≤ decimal.point.toNat)
    : WritesDecimal negative decimal decimal.positional
        ⟨negative, decimal.digits.take decimal.point.toNat,
          some (decimal.digits.drop decimal.point.toNat), none⟩ := by
  have nonempty : decimal.digits.drop decimal.point.toNat ≠ [] := by simpa using split
  refine .of_digits ⟨take_digits_isWhole nonzero (by omega),
    .present (drop_digits_isDigits nonempty), .absent, ?_⟩ rfl (by simp) ?_ ?_
  · simp [Decimal.positional, split, Int.not_le.mpr pos]
  · rw [Literal.behindPoint, Option.getD_some, List.take_append_drop, ofDigitChars_digits]
  · rw [Literal.behindPoint, Option.getD_some, Option.getD_none, List.length_drop]
    rw [Decimal.point] at pos split ⊢
    omega

theorem signed_natAbs (value : Int) : signed (value < 0) value.natAbs = value := by
  by_cases below : value < 0
  · rw [signed, if_pos (decide_eq_true below)]
    omega
  · rw [signed, if_neg (by simpa using below)]
    omega

/-- The exponent is written with its sign and at least two digits. -/
theorem exponent_isExponent (value : Int)
    : IsExponent
        ('e' :: (if value < 0 then '-' else '+') :: (Nat.toDigits 10 value.natAbs).leftpad 2 '0')
        (some value) := by
  have power : IsDigits ((Nat.toDigits 10 value.natAbs).leftpad 2 '0') :=
    (toDigits_isDigits _).append (isDigit_of_mem_zeros _)
  have exponent := IsExponent.present power (value < 0)
  rw [List.leftpad, ofDigitChars_zeros_append, Nat.ofDigitChars_ten_toDigits, signed_natAbs]
    at exponent
  simpa only [List.leftpad, decide_eq_true_eq] using exponent

/-- With an exponent, the point stands behind the first digit if there are more. -/
theorem scientific_written (nonzero : decimal.coefficient ≠ 0)
    : WritesDecimal negative decimal decimal.scientific
        ⟨negative, decimal.digits.take 1,
          if (decimal.digits.drop 1).isEmpty then none else some (decimal.digits.drop 1),
          some (decimal.point - 1)⟩ := by
  have fraction : IsFraction
      (if (decimal.digits.drop 1).isEmpty then [] else '.' :: decimal.digits.drop 1)
      (if (decimal.digits.drop 1).isEmpty then none else some (decimal.digits.drop 1)) := by
    split
    case isTrue => exact .absent
    case isFalse more => exact .present (drop_digits_isDigits (by simpa using more))
  have behind : (if (decimal.digits.drop 1).isEmpty then none
      else some (decimal.digits.drop 1)).getD [] = decimal.digits.drop 1 := by
    split
    case isTrue none => exact (List.isEmpty_iff.mp none).symm
    case isFalse => rfl
  refine .of_digits ⟨take_digits_isWhole nonzero (by decide), fraction, exponent_isExponent _, ?_⟩
    rfl (by simp) ?_ ?_
  · simp [Decimal.scientific]
  · rw [Literal.behindPoint, behind, List.take_append_drop, ofDigitChars_digits]
  · have length : 0 < decimal.digits.length := Nat.length_toDigits_pos
    rw [Literal.behindPoint, behind, List.length_drop, Decimal.point, Option.getD_some]
    omega

/-- Whatever the decimal, what is written for it has the same value. -/
theorem writesDecimal_layout (nonzero : decimal.coefficient ≠ 0)
    : ∃ literal, WritesDecimal negative decimal decimal.layout literal := by
  rw [Decimal.layout]
  split
  case isTrue =>
    by_cases small : decimal.point ≤ 0
    · exact ⟨_, positional_small negative small⟩
    · by_cases whole : decimal.digits.length ≤ decimal.point.toNat
      · exact ⟨_, positional_whole negative nonzero (by omega) whole⟩
      · exact ⟨_, positional_split negative nonzero (by omega) whole⟩
  case isFalse => exact ⟨_, scientific_written negative nonzero⟩

end Layout

/-- A number of the format is written as a decimal that it is nearest to. -/
theorem spells_double {number : Binary64} (normal : number.IsNormal)
    : ∃ literal, Spells number.text.toList literal ∧ literal.toJson = .double number := by
  have sign : number.signText.toList = signChars number.negative := by
    rw [Binary64.signText, signChars]
    split <;> rfl
  rw [Binary64.text, String.toList_append, sign]
  by_cases zero : number.significand = 0
  · obtain ⟨-, exponent⟩ : number.significand = 0 ∧ number.exponent = 0 := by
      rcases normal with both | ⟨low, -⟩
      · exact both
      · omega
    refine ⟨⟨number.negative, ['0'], some ['0'], none⟩, ?_, ?_⟩
    · refine ⟨⟨⟨List.cons_ne_nil _ _, by simp⟩, fun _ => rfl⟩,
        .present ⟨List.cons_ne_nil _ _, by simp⟩, .absent, ?_⟩
      simp [zero]
    · obtain ⟨negative, significand, exponent⟩ := number
      dsimp only at zero exponent
      subst zero exponent
      rfl
  · have readsBack := Binary64.readsBack_shortest normal
    obtain ⟨literal, written⟩ := writesDecimal_layout number.negative
      (Binary64.coefficient_ne_zero zero readsBack)
    rw [if_neg zero, String.toList_ofList]
    refine ⟨literal, written.spells, ?_⟩
    have literalReadsBack := Binary64.readsBack_of_value_eq written.value.symm readsBack
    rw [Literal.toJson, if_neg written.notInteger, written.sign,
      Binary64.readsBack_iff.mp literalReadsBack]

end Bytewise.Json

import Bytewise.Proofs.Json.Strings

/-! The parts that a number is written in are those that the grammar tells apart in the text, if no
character behind it could belong to it.
-/

namespace Bytewise.Json

open Reader

/-- No character in front can belong to a number that ends there. -/
def EndsNumber (rest : List Char) : Prop :=
  ∀ c, rest.head? = some c → ¬ c.isDigit ∧ c ≠ '.' ∧ c ≠ 'e' ∧ c ≠ 'E'

theorem EndsNumber.nil : EndsNumber [] := nofun

theorem EndsNumber.cons {c : Char}
    (ends : ¬ c.isDigit ∧ c ≠ '.' ∧ c ≠ 'e' ∧ c ≠ 'E') (rest : List Char)
    : EndsNumber (c :: rest) := by
  rintro _ ⟨⟩
  exact ends

-----------------------------------------------------------------------------------------
-- Parts of numbers
-----------------------------------------------------------------------------------------

structure IsDigits (digits : List Char) : Prop where
  nonempty : digits ≠ []
  all : ∀ c ∈ digits, c.isDigit

/-- Digits without a zero in front. -/
structure IsWhole (digits : List Char) : Prop extends IsDigits digits where
  unpadded : digits.head? = some '0' → digits = ['0']

inductive IsFraction : List Char → Option (List Char) → Prop where
  | absent : IsFraction [] none
  | present {digits : List Char} (isDigits : IsDigits digits)
      : IsFraction ('.' :: digits) (some digits)

inductive IsExponent : List Char → Option Int → Prop where
  | absent : IsExponent [] none
  | present {digits : List Char} (isDigits : IsDigits digits) (negative : Bool)
      : IsExponent ('e' :: (if negative then '-' else '+') :: digits)
          (some (signed negative (Nat.ofDigitChars 10 digits 0)))

def signChars (negative : Bool) : List Char :=
  if negative then ['-'] else []

/-- A text that is written for the parts of a number. -/
inductive Spells (text : List Char) (literal : Literal) : Prop where
  | intro {fraction exponent : List Char} (isWhole : IsWhole literal.whole)
      (isFraction : IsFraction fraction literal.fraction)
      (isExponent : IsExponent exponent literal.exponent)
      (text_eq : text = signChars literal.negative ++ literal.whole ++ fraction ++ exponent)

variable {digits text rest : List Char}

theorem digits?_append (isDigits : IsDigits digits)
    (ends : ∀ c, rest.head? = some c → ¬ c.isDigit)
    : digits? (digits ++ rest) = some (digits, rest) := by
  have taken : rest.takeWhile Char.isDigit = [] ∧ rest.dropWhile Char.isDigit = rest := by
    cases rest with
    | nil => exact ⟨rfl, rfl⟩
    | cons c rest => simp [ends c rfl]
  rw [digits?, List.takeWhile_append_of_pos isDigits.all, List.dropWhile_append_of_pos isDigits.all,
    taken.1, taken.2, List.append_nil, if_neg (by simpa using isDigits.nonempty)]

theorem whole?_append (isWhole : IsWhole digits)
    (ends : ∀ c, rest.head? = some c → ¬ c.isDigit)
    : whole? (digits ++ rest) = some (digits, rest) := by
  cases digits with
  | nil => exact absurd rfl isWhole.nonempty
  | cons first digits =>
      by_cases zero : first = '0'
      · subst zero
        obtain rfl : digits = [] := by simpa using isWhole.unpadded rfl
        rfl
      · rw [List.cons_append, whole?]
        · exact digits?_append isWhole.toIsDigits ends
        · rintro _ ⟨⟩
          exact zero rfl

theorem fraction?_append {fraction : Option (List Char)} (isFraction : IsFraction text fraction)
    (ends : ∀ c, rest.head? = some c → ¬ c.isDigit ∧ c ≠ '.')
    : fraction? (text ++ rest) = some (fraction, rest) := by
  cases isFraction with
  | absent =>
      cases rest with
      | nil => rfl
      | cons c rest =>
          rw [List.nil_append, fraction?]
          rintro _ ⟨⟩
          exact (ends '.' rfl).2 rfl
  | present isDigits =>
      rw [List.cons_append, fraction?, digits?_append isDigits (fun c head => (ends c head).1)]
      rfl

theorem exponent?_append {exponent : Option Int} (isExponent : IsExponent text exponent)
    (ends : EndsNumber rest)
    : exponent? (text ++ rest) = some (exponent, rest) := by
  cases isExponent with
  | absent =>
      cases rest with
      | nil => rfl
      | cons c rest =>
          rw [List.nil_append, exponent?]
          · rintro _ ⟨⟩
            exact (ends 'e' rfl).2.2.1 rfl
          · rintro _ ⟨⟩
            exact (ends 'E' rfl).2.2.2 rfl
  | present isDigits negative =>
      have read := digits?_append isDigits (fun c head => (ends c head).1)
      cases negative with
      | false => simp [exponent?, power?, read]
      | true => simp [exponent?, power?, minus, read]

theorem IsExponent.ends {exponent : Option Int} (isExponent : IsExponent text exponent)
    (ends : EndsNumber rest) {c : Char} (head : (text ++ rest).head? = some c)
    : ¬ c.isDigit ∧ c ≠ '.' := by
  cases isExponent with
  | absent => exact ⟨(ends c head).1, (ends c head).2.1⟩
  | present =>
      cases head
      decide

theorem IsFraction.ends {fraction : Option (List Char)} (isFraction : IsFraction text fraction)
    (ends : ∀ c, rest.head? = some c → ¬ c.isDigit) {c : Char}
    (head : (text ++ rest).head? = some c)
    : ¬ c.isDigit := by
  cases isFraction with
  | absent => exact ends c head
  | present =>
      cases head
      decide

theorem minus_signChars (negative : Bool) (isWhole : IsWhole digits) (rest : List Char)
    : minus (signChars negative ++ (digits ++ rest)) = (negative, digits ++ rest) := by
  cases negative with
  | true => rfl
  | false =>
      cases digits with
      | nil => exact absurd rfl isWhole.nonempty
      | cons first others =>
          change minus (first :: (others ++ rest)) = _
          rw [minus]
          · rfl
          · rintro _ ⟨⟩
            exact absurd (isWhole.all '-' List.mem_cons_self) (by decide)

/-- The parts of a number are read from the text that is written for them. -/
theorem Spells.reads {literal : Literal} (spells : Spells text literal) (ends : EndsNumber rest)
    : literal? (text ++ rest) = some (literal, rest) := by
  obtain @⟨fraction, exponent, isWhole, isFraction, isExponent, rfl⟩ := spells
  have endsFraction := fun c => isExponent.ends ends (c := c)
  have endsWhole := fun c => isFraction.ends (fun c head => (endsFraction c head).1) (c := c)
  rw [List.append_assoc, List.append_assoc, List.append_assoc, literal?, minus_signChars _ isWhole]
  dsimp only
  rw [whole?_append isWhole endsWhole]
  simp [fraction?_append isFraction endsFraction, exponent?_append isExponent ends]

-----------------------------------------------------------------------------------------
-- Characters of numbers
-----------------------------------------------------------------------------------------

theorem IsDigits.isAscii (isDigits : IsDigits digits) : IsAscii digits := by
  intro c mem
  have digit := isDigits.all c mem
  rw [Char.isDigit, Bool.and_eq_true, decide_eq_true_eq, decide_eq_true_eq] at digit
  exact Nat.lt_of_le_of_lt (UInt32.le_iff_toNat_le.mp digit.2) (by decide)

theorem IsFraction.isAscii {fraction : Option (List Char)} (isFraction : IsFraction text fraction)
    : IsAscii text := by
  cases isFraction with
  | absent => exact nofun
  | present isDigits => exact isDigits.isAscii.cons (by decide)

theorem IsExponent.isAscii {exponent : Option Int} (isExponent : IsExponent text exponent)
    : IsAscii text := by
  cases isExponent with
  | absent => exact nofun
  | present isDigits negative =>
      have sign : (if negative then '-' else '+').toNat < 0x80 := by cases negative <;> decide
      exact (isDigits.isAscii.cons sign).cons (by decide)

theorem signChars_isAscii : ∀ negative, IsAscii (signChars negative) := by decide

theorem Spells.isAscii {literal : Literal} (spells : Spells text literal) : IsAscii text := by
  obtain ⟨isWhole, isFraction, isExponent, rfl⟩ := spells
  exact (((signChars_isAscii _).append isWhole.isAscii).append isFraction.isAscii).append
    isExponent.isAscii

/-- What a number is written in begins with a digit or a minus sign. -/
theorem Spells.head {literal : Literal} (spells : Spells text literal)
    : ∃ first others, text = first :: others ∧ (first.isDigit ∨ first = '-') := by
  obtain ⟨isWhole, -, -, rfl⟩ := spells
  obtain ⟨negative, whole, fraction, exponent⟩ := literal
  cases negative with
  | true => exact ⟨'-', _, rfl, Or.inr rfl⟩
  | false =>
      cases whole with
      | nil => exact absurd rfl isWhole.nonempty
      | cons first others => exact ⟨first, _, rfl, Or.inl (isWhole.all first List.mem_cons_self)⟩

end Bytewise.Json

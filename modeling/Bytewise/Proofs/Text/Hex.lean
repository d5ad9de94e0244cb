import Mathlib.Algebra.Group.Nat.Defs
import Bytewise.Text.Hex

/-! Numerals in base sixteen read back: the digits that are printed stand for the number, without a
zero in front.
-/

namespace Bytewise.Text

/-- The digit that a decimal digit or an upper-case letter stands for. -/
def upperDigit? (c : Char) : Option Nat :=
  if '0' ≤ c ∧ c ≤ '9' then
    some (c.toNat - '0'.toNat)
  else if 'A' ≤ c ∧ c ≤ 'F' then
    some (c.toNat - 'A'.toNat + 10)
  else
    none

/-- The number that digits in base sixteen stand for, if each of them is one. -/
def numeralValue? (digit? : Char → Option Nat) (numeral : List Char) : Option Nat :=
  numeral.foldlM (fun value c => (digit? c).map (fun digit => 16 * value + digit)) 0

/-- A numeral in base sixteen without filling. -/
structure IsNumeral (digit? : Char → Option Nat) (numeral : List Char) (number : Nat)
    : Prop where
  value : numeralValue? digit? numeral = some number
  nonempty : numeral ≠ []
  unpadded : numeral.head? = some '0' → numeral = ['0']

section Digits

variable {digit? : Char → Option Nat} {shown : Char → Char}

/-- Printed digits stand for the number, by induction on its quotients by the base. -/
theorem numeralValue?_toDigits
    (inverse : ∀ digit < 16, digit? (shown digit.digitChar) = some digit) (number : Nat)
    : numeralValue? digit? ((Nat.toDigits 16 number).map shown) = some number := by
  induction number using Nat.strongRecOn with
  | ind number ih =>
      by_cases small : number < 16
      · rw [Nat.toDigits_of_lt_base small]
        simp [numeralValue?, inverse number small]
      · have front := ih (number / 16) (by omega)
        have last := inverse (number % 16) (by omega)
        rw [Nat.toDigits_of_base_le (by decide) (by omega), List.map_append, numeralValue?,
          List.foldlM_append]
        rw [numeralValue?] at front
        simp only [front, List.map_cons, List.map_nil, List.foldlM_cons, List.foldlM_nil, last,
          Option.map_some, Option.bind_eq_bind, Option.bind_some, Option.pure_def,
          Option.some.injEq]
        omega

/-- Zeros in front do not change what digits stand for. -/
theorem numeralValue?_zeros (zero : digit? '0' = some 0) (count : Nat) (numeral : List Char)
    : numeralValue? digit? (List.replicate count '0' ++ numeral)
      = numeralValue? digit? numeral := by
  induction count with
  | zero => rfl
  | succ count ih =>
      rw [numeralValue?] at ih
      simpa [numeralValue?, List.replicate_succ, zero] using ih

/-- Whatever stands for a number consists of digits. -/
theorem isSome_of_numeralValue? {numeral : List Char}
    (present : (numeralValue? digit? numeral).isSome) {c : Char} (mem : c ∈ numeral)
    : (digit? c).isSome := by
  rw [numeralValue?] at present
  generalize 0 = value at present
  induction numeral generalizing value with
  | nil => cases mem
  | cons first rest ih =>
      cases found : digit? first with
      | none => simp [found] at present
      | some digit =>
          simp only [List.foldlM_cons, found, Option.map_some, Option.bind_eq_bind,
            Option.bind_some] at present
          rcases List.mem_cons.mp mem with rfl | later
          · simp [found]
          · exact ih later _ present

/-- In any base, only the numeral of zero begins with one, by induction on the number's
quotients.
-/
theorem eq_zero_of_head?_toDigits {base : Nat} (base_gt : 1 < base)
    (leading : ∀ digit < base, shown digit.digitChar = '0' → digit = 0) {number : Nat}
    (head : ((Nat.toDigits base number).map shown).head? = some '0')
    : number = 0 := by
  induction number using Nat.strongRecOn with
  | ind number ih =>
      by_cases small : number < base
      · rw [Nat.toDigits_of_lt_base small] at head
        exact leading number small (by simpa using head)
      · rw [Nat.toDigits_of_base_le base_gt (by omega), List.map_append,
          List.head?_append, Option.or_of_isSome (by simp [Nat.toDigits_ne_nil])] at head
        have zero := ih (number / base) (Nat.div_lt_self (by omega) base_gt) head
        exact absurd ((Nat.div_eq_zero_iff_lt (by omega)).mp zero) small

end Digits

/-- The upper-case text of a number is its numeral. -/
theorem upperHex_isNumeral (number : Nat)
    : IsNumeral upperDigit? (upperHex number).toList number := by
  rw [upperHex, String.toList_ofList]
  refine { value := ?_, nonempty := ?_, unpadded := ?_ }
  · exact numeralValue?_toDigits (by decide) number
  · simp [Nat.toDigits_ne_nil]
  · intro head
    have zero := eq_zero_of_head?_toDigits (by decide) (by decide) head
    subst zero
    decide

-----------------------------------------------------------------------------------------
-- Numerals of a fixed width
-----------------------------------------------------------------------------------------

/-- The digits of base sixteen in lower case. -/
def lowerDigits : List Char :=
  ['0', '1', '2', '3', '4', '5', '6', '7', '8', '9', 'a', 'b', 'c', 'd', 'e', 'f']

/-- The number that a lower-case digit stands for. -/
def lowerDigit? (c : Char) : Option Nat :=
  lowerDigits.idxOf? c

/-- A numeral of exactly `width` lower-case digits, without a sign. -/
structure IsFilled (width : Nat) (text : String) (number : Nat) : Prop where
  length : text.length = width
  digits : ∀ c ∈ text.toList, c ∈ lowerDigits
  value : numeralValue? lowerDigit? text.toList = some number

/-- Filled digits stand for the number; witness: the digits do, and zeros in front add nothing. -/
theorem numeralValue?_hex {digit? : Char → Option Nat}
    (inverse : ∀ digit < 16, digit? digit.digitChar = some digit) (width number : Nat)
    : numeralValue? digit? (hex width number).toList = some number := by
  have digits : numeralValue? digit? ((Nat.toDigits 16 number).map id) = some number :=
    numeralValue?_toDigits inverse number
  rw [List.map_id] at digits
  rw [hex, String.toList_ofList, List.leftpad, numeralValue?_zeros (inverse 0 (by decide)), digits]

/-- A number that fits into a width is filled up to it. -/
theorem length_toList_hex {width number : Nat} (pos : 0 < width) (fits : number < 16 ^ width)
    : (hex width number).toList.length = width := by
  have atMost : (Nat.toDigits 16 number).length ≤ width :=
    (Nat.length_toDigits_le_iff (by decide) pos).mpr fits
  rw [hex, String.toList_ofList, List.length_leftpad, Nat.max_eq_left atMost]

theorem hex_isFilled {width number : Nat} (pos : 0 < width) (fits : number < 16 ^ width)
    : IsFilled width (hex width number) number := by
  have value : numeralValue? lowerDigit? (hex width number).toList = some number :=
    numeralValue?_hex (by decide) width number
  refine { length := ?_, digits := ?_, value := value }
  · rw [← String.length_toList, length_toList_hex pos fits]
  · intro c mem
    have digit := isSome_of_numeralValue? (Option.isSome_iff_exists.mpr ⟨_, value⟩) mem
    rwa [lowerDigit?, List.isSome_idxOf?] at digit

end Bytewise.Text

import Mathlib.Algebra.Group.Nat.Defs
import Bytewise.Buffer.Read

/-! Integers as bytes with the least significant one first, beside the reading of them. -/

namespace Bytewise

/-- The last `width` bytes of a number, the least significant one first. -/
def littleBytes : (width number : Nat) → List UInt8
  | 0, _ => []
  | width + 1, number => UInt8.ofNat number :: littleBytes width (number / 256)

@[simp]
theorem length_littleBytes (width number : Nat)
    : (littleBytes width number).length = width := by
  induction width generalizing number with
  | zero => rfl
  | succ width ih => rw [littleBytes, List.length_cons, ih]

/-- Stored bytes give back what the width keeps of the number. -/
theorem littleValue_littleBytes (width number : Nat)
    : littleValue (littleBytes width number) = number % 256 ^ width := by
  induction width generalizing number with
  | zero => rw [Nat.pow_zero, Nat.mod_one, littleBytes, littleValue]
  | succ width ih =>
      have byte : (UInt8.ofNat number).toNat = number % 256 := UInt8.toNat_ofNat'
      rw [littleBytes, littleValue, ih, byte, Nat.pow_succ, Nat.mul_comm (256 ^ width), Nat.mod_mul]

theorem littleValue_littleBytes_of_lt {width number : Nat} (fits : number < 256 ^ width)
    : littleValue (littleBytes width number) = number := by
  rw [littleValue_littleBytes, Nat.mod_eq_of_lt fits]

/-- Bytes are the ones that store their value. -/
theorem littleBytes_littleValue (bytes : List UInt8)
    : littleBytes bytes.length (littleValue bytes) = bytes := by
  induction bytes with
  | nil => rfl
  | cons byte rest ih =>
      have first : UInt8.ofNat (byte.toNat + 256 * littleValue rest) = byte := by
        rw [← UInt8.toNat_inj, UInt8.toNat_ofNat']
        have lt := byte.toNat_lt
        omega
      have others : (byte.toNat + 256 * littleValue rest) / 256 = littleValue rest := by
        have lt := byte.toNat_lt
        omega
      rw [List.length_cons, littleValue, littleBytes, first, others, ih]

/-- The bytes behind others count as much more as these have values. -/
theorem littleValue_append (left right : List UInt8)
    : littleValue (left ++ right) = littleValue left + 256 ^ left.length * littleValue right := by
  induction left with
  | nil => rw [List.nil_append, littleValue, List.length_nil, Nat.pow_zero, Nat.one_mul, Nat.zero_add]
  | cons byte left ih =>
      rw [List.cons_append, littleValue, ih, littleValue, List.length_cons, Nat.pow_succ,
        Nat.mul_add, Nat.add_assoc, Nat.mul_comm (256 ^ left.length) 256, Nat.mul_assoc]

/-- Bytes store a number below the power of 256 that has their count as its exponent. -/
theorem littleValue_lt (bytes : List UInt8) : littleValue bytes < 256 ^ bytes.length := by
  induction bytes with
  | nil => decide
  | cons byte rest ih =>
      have lt := byte.toNat_lt
      rw [littleValue, List.length_cons, Nat.pow_succ]
      omega

end Bytewise

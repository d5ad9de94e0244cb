import Mathlib.Algebra.BigOperators.Fin
import Mathlib.Tactic.Ring
import Bytewise.Checksum
import Bytewise.Proofs.Text.Hex

/-! The checksum as a polynomial. Keeping 32 bits without a sign at each byte, keeping 32 bits with
one, and wrapping the exact sum around once at the end come to the same.
-/

namespace Bytewise.Checksum

/-- A number wrapped around to 32 bits, of which the top one tells the sign. -/
def wrap (number : Int) : Int :=
  number.bmod (2 ^ 32)

/-- A signed accumulator after one more byte, wrapped around at once. -/
def signedStep (accumulator : Int) (byte : UInt8) : Int :=
  wrap (accumulator <<< (5 : Nat) - accumulator + byte.toNat)

def signedAccumulate (buffer : Buffer) : Int :=
  buffer.foldl signedStep 0

/-- The checksum of a signed accumulator. -/
def signedDigest (buffer : Buffer) : String :=
  Text.hex 8 (signedAccumulate buffer).natAbs

/-- The value at 31 of the polynomial that has some bytes as its coefficients, the last one being
the constant.
-/
def polynomial (bytes : List UInt8) : Nat :=
  ∑ index : Fin bytes.length, bytes[index].toNat * 31 ^ (bytes.length - 1 - index)

/-- A number after one more byte, without wrapping around. -/
def exactStep (number : Int) (byte : UInt8) : Int :=
  number * 31 + byte.toNat

-----------------------------------------------------------------------------------------
-- Steps
-----------------------------------------------------------------------------------------

/-- The magnitude of a wrapped number fits into 32 bits, also that of the least one. -/
theorem natAbs_wrap_lt (number : Int) : (wrap number).natAbs < 16 ^ 8 := by
  have least : -((2 ^ 32 : Nat) / 2 : Int) ≤ wrap number := Int.le_bmod (by decide)
  have below : wrap number < ((2 ^ 32 : Nat) + 1) / 2 := Int.bmod_lt (by decide)
  norm_num at least below ⊢
  omega

theorem toInt_toInt32 (accumulator : UInt32)
    : accumulator.toInt32.toInt = wrap accumulator.toNat :=
  BitVec.toInt_eq_toNat_bmod _

/-- Whether a number is wrapped around in front of a step makes no difference behind it. -/
theorem signedStep_wrap (number : Int) (byte : UInt8)
    : signedStep (wrap number) byte = wrap (exactStep number byte) := by
  have shifted (accumulator : Int)
      : accumulator <<< (5 : Nat) - accumulator + byte.toNat = accumulator * 31 + byte.toNat := by
    rw [Int.shiftLeft_eq]
    ring
  rw [signedStep, shifted, exactStep, wrap, wrap, wrap, ← Int.bmod_add_bmod, Int.bmod_mul_bmod,
    Int.bmod_add_bmod]

theorem toNat_step (accumulator : UInt32) (byte : UInt8)
    : (step accumulator byte).toNat = (accumulator.toNat * 31 + byte.toNat) % 2 ^ 32 := by
  rw [step, UInt32.toNat_add, UInt32.toNat_mul, UInt8.toNat_toUInt32, Nat.mod_add_mod]
  rfl

/-- A step that keeps 32 bits without a sign is the signed step on what they stand for. -/
theorem signedStep_toInt (accumulator : UInt32) (byte : UInt8)
    : signedStep accumulator.toInt32.toInt byte = (step accumulator byte).toInt32.toInt := by
  rw [toInt_toInt32, toInt_toInt32, signedStep_wrap, toNat_step, exactStep, wrap, wrap,
    Int.natCast_mod, Int.emod_bmod, Int.natCast_add, Int.natCast_mul]
  rfl

-----------------------------------------------------------------------------------------
-- Runs
-----------------------------------------------------------------------------------------

/-- The first of some bytes is the coefficient of the highest power. -/
theorem polynomial_cons (byte : UInt8) (rest : List UInt8)
    : polynomial (byte :: rest) = byte.toNat * 31 ^ rest.length + polynomial rest := by
  calc polynomial (byte :: rest)
    _ = byte.toNat * 31 ^ rest.length
        + ∑ index : Fin rest.length, rest[index].toNat * 31 ^ (rest.length - (index + 1)) :=
      Fin.sum_univ_succ _
    _ = byte.toNat * 31 ^ rest.length + polynomial rest := by
      simp only [polynomial, Nat.sub_sub, Nat.add_comm 1]

/-- Exact steps raise the number begun with by a power for each byte and add the polynomial of the
bytes, by induction on them.
-/
theorem foldl_exactStep (bytes : List UInt8) (number : Int)
    : bytes.foldl exactStep number = number * 31 ^ bytes.length + polynomial bytes := by
  induction bytes generalizing number with
  | nil => simp [polynomial]
  | cons byte rest ih =>
      rw [List.foldl_cons, ih, exactStep, polynomial_cons, List.length_cons, pow_succ]
      push_cast
      ring

theorem signedAccumulate_eq_wrap (buffer : Buffer)
    : signedAccumulate buffer = wrap (polynomial buffer.toList) := by
  have run : buffer.toList.foldl signedStep (wrap 0) = wrap (buffer.toList.foldl exactStep 0) :=
    List.foldl_hom wrap signedStep_wrap
  rw [foldl_exactStep, zero_mul, zero_add] at run
  rw [signedAccumulate, ← Array.foldl_toList]
  exact run

/-- The accumulator of a buffer, read as signed, is the signed one; witness: every step is. -/
theorem toInt_accumulate (buffer : Buffer)
    : (accumulate buffer).toInt32.toInt = signedAccumulate buffer := by
  have run : buffer.toList.foldl signedStep (UInt32.toInt32 0).toInt
      = (buffer.toList.foldl step 0).toInt32.toInt :=
    List.foldl_hom (fun accumulator : UInt32 => accumulator.toInt32.toInt) signedStep_toInt
  rw [accumulate, signedAccumulate, ← Array.foldl_toList, ← Array.foldl_toList]
  exact run.symm

/-- The checksum that keeps 32 bits without a sign is the one that keeps them with a sign. Both
accumulators stand for the wrapped polynomial of the bytes, and the checksum is always the eight
digits of its magnitude.
-/
theorem digest_specified (buffer : Buffer)
    : digest buffer = signedDigest buffer
      ∧ (accumulate buffer).toInt32.toInt = wrap (polynomial buffer.toList)
      ∧ signedAccumulate buffer = wrap (polynomial buffer.toList)
      ∧ Text.IsFilled 8 (digest buffer) (wrap (polynomial buffer.toList)).natAbs := by
  have signed := toInt_accumulate buffer
  have wrapped := signedAccumulate_eq_wrap buffer
  have same : digest buffer = signedDigest buffer := by
    rw [digest, magnitude, signed, signedDigest]
  refine ⟨same, signed.trans wrapped, wrapped, ?_⟩
  rw [same, signedDigest, wrapped]
  exact Text.hex_isFilled (by decide) (natAbs_wrap_lt _)

/-- The least accumulator has a magnitude of eight digits too. -/
example : digest #[2, 13, 0, 9, 30, 12, 2] = "80000000" := by decide +kernel

end Bytewise.Checksum

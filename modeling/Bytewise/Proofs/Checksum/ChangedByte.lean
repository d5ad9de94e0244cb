import Bytewise.Proofs.Checksum

/-! What the checksum tells of a single changed byte. The accumulators differ whatever byte is
changed, so the checksums are the same only where the accumulators have opposite signs.
-/

namespace Bytewise

/-- Two buffers of one size have different bytes at one position and the same ones elsewhere. -/
structure DifferOnlyAt (first second : Buffer) (position : Nat) (byte1 byte2 : UInt8)
    : Prop where
  sameSize : first.size = second.size
  found1 : first[position]? = some byte1
  found2 : second[position]? = some byte2
  differ : byte1 ≠ byte2
  elsewhere : ∀ other, other ≠ position → first[other]? = second[other]?

/-- Around the position at which they differ, buffers have the same bytes. -/
theorem DifferOnlyAt.exists_around {first second : Buffer} {position : Nat}
    {byte1 byte2 : UInt8} (only : DifferOnlyAt first second position byte1 byte2)
    : ∃ front back,
        first.toList = front ++ byte1 :: back ∧ second.toList = front ++ byte2 :: back := by
  have found1 : first.toList[position]? = some byte1 := Array.getElem?_toList.trans only.found1
  have found2 : second.toList[position]? = some byte2 := Array.getElem?_toList.trans only.found2
  have sameFront : first.toList.take position = second.toList.take position := by
    apply List.ext_getElem?
    intro index
    by_cases before : index < position
    · simpa [List.getElem?_take_of_lt before] using only.elsewhere index before.ne
    · simp [before]
  have sameBack : first.toList.drop (position + 1) = second.toList.drop (position + 1) := by
    apply List.ext_getElem?
    intro index
    simpa using only.elsewhere (position + 1 + index) (by omega)
  have around {bytes : List UInt8} {byte : UInt8} (found : bytes[position]? = some byte)
      : bytes = bytes.take position ++ byte :: bytes.drop (position + 1) := by
    obtain ⟨inside, rfl⟩ := List.getElem?_eq_some_iff.mp found
    rw [← List.drop_eq_getElem_cons inside, List.take_append_drop]
  refine ⟨first.toList.take position, first.toList.drop (position + 1), around found1, ?_⟩
  rw [sameFront, sameBack]
  exact around found2

/-- Buffers whose last bytes were appended to the same ones differ there only. -/
theorem DifferOnlyAt.push (front : Buffer) {byte1 byte2 : UInt8} (differ : byte1 ≠ byte2)
    : DifferOnlyAt (front.push byte1) (front.push byte2) front.size byte1 byte2 where
  sameSize := by rw [Array.size_push, Array.size_push]
  found1 := Array.getElem?_push_size
  found2 := Array.getElem?_push_size
  differ := differ
  elsewhere := by
    intro other elsewhere
    rw [Array.getElem?_push, Array.getElem?_push, if_neg elsewhere, if_neg elsewhere]

namespace Checksum

-----------------------------------------------------------------------------------------
-- Steps
-----------------------------------------------------------------------------------------

/-- A step can be undone; witness: 31 has an inverse modulo `2 ^ 32`. -/
theorem step_injective (byte : UInt8) : Function.Injective (step · byte) := by
  intro accumulator other same
  have products : accumulator * 31 = other * 31 := UInt32.add_left_inj _ |>.mp same
  have inverse : (31 : UInt32) * 3186588639 = 1 := by decide
  calc accumulator
    _ = accumulator * 31 * 3186588639 := by rw [UInt32.mul_assoc, inverse, UInt32.mul_one]
    _ = other * 31 * 3186588639 := by rw [products]
    _ = other := by rw [UInt32.mul_assoc, inverse, UInt32.mul_one]

theorem step_right_injective (accumulator : UInt32)
    : Function.Injective (step accumulator) := by
  intro byte other same
  have widened : byte.toUInt32 = other.toUInt32 := UInt32.add_right_inj _ |>.mp same
  exact UInt8.toUInt32_inj.mp widened

/-- A step adds the parity of the byte; witness: 31 is odd. -/
theorem toNat_step_mod_two (accumulator : UInt32) (byte : UInt8)
    : (step accumulator byte).toNat % 2 = (accumulator.toNat + byte.toNat) % 2 := by
  rw [toNat_step]
  omega

-----------------------------------------------------------------------------------------
-- Runs
-----------------------------------------------------------------------------------------

/-- Accumulators that differ go on to differ, by induction on the bytes that follow. -/
theorem foldl_step_injective (bytes : List UInt8)
    : Function.Injective (fun accumulator => bytes.foldl step accumulator) := by
  induction bytes with
  | nil => exact fun _ _ same => same
  | cons byte rest ih => exact ih.comp (step_injective byte)

/-- The bytes that follow add their parity, by induction on them. -/
theorem toNat_foldl_step_mod_two (bytes : List UInt8) (accumulator : UInt32)
    : (bytes.foldl step accumulator).toNat % 2
      = (accumulator.toNat + (bytes.map UInt8.toNat).sum) % 2 := by
  induction bytes generalizing accumulator with
  | nil => rfl
  | cons byte rest ih =>
      have first := toNat_step_mod_two accumulator byte
      rw [List.foldl_cons, ih, List.map_cons, List.sum_cons]
      omega

theorem accumulate_eq_foldl (buffer : Buffer) : accumulate buffer = buffer.toList.foldl step 0 :=
  Array.foldl_toList step |>.symm

/-- Buffers that differ at one position have different accumulators. Witness: the accumulators are
the same up to that position, and no step from there on brings them together again.
-/
theorem accumulate_ne {first second : Buffer} {position : Nat} {byte1 byte2 : UInt8}
    (only : DifferOnlyAt first second position byte1 byte2)
    : accumulate first ≠ accumulate second := by
  obtain ⟨front, back, bytes1, bytes2⟩ := only.exists_around
  intro same
  rw [accumulate_eq_foldl, accumulate_eq_foldl, bytes1, bytes2, List.foldl_append,
    List.foldl_append] at same
  exact only.differ (step_right_injective _ (foldl_step_injective back same))

/-- Where buffers differ at one position only, their accumulators have the same parity exactly when
the bytes there have.
-/
theorem toNat_accumulate_mod_two {first second : Buffer} {position : Nat}
    {byte1 byte2 : UInt8} (only : DifferOnlyAt first second position byte1 byte2)
    : (accumulate first).toNat % 2 = (accumulate second).toNat % 2
      ↔ byte1.toNat % 2 = byte2.toNat % 2 := by
  obtain ⟨front, back, bytes1, bytes2⟩ := only.exists_around
  rw [accumulate_eq_foldl, accumulate_eq_foldl, toNat_foldl_step_mod_two,
    toNat_foldl_step_mod_two, bytes1, bytes2]
  simp only [List.map_append, List.map_cons, List.sum_append, List.sum_cons]
  omega

-----------------------------------------------------------------------------------------
-- Magnitudes
-----------------------------------------------------------------------------------------

/-- The magnitude of an accumulator is its distance to the nearer multiple of `2 ^ 32`. -/
theorem magnitude_eq_min (accumulator : UInt32)
    : magnitude accumulator = min accumulator.toNat (2 ^ 32 - accumulator.toNat) := by
  have below := accumulator.toNat_lt
  rw [magnitude, toInt_toInt32, wrap, Int.bmod_def]
  split
  · omega
  · omega

/-- Accumulators have one magnitude when they are the same, or add up to zero modulo `2 ^ 32`. -/
theorem magnitude_eq_iff (first second : UInt32)
    : magnitude first = magnitude second
      ↔ first = second ∨ (first.toNat + second.toNat) % 2 ^ 32 = 0 := by
  have below1 := first.toNat_lt
  have below2 := second.toNat_lt
  rw [magnitude_eq_min, magnitude_eq_min, ← UInt32.toNat_inj]
  omega

/-- A checksum tells the magnitude, as its digits read back. -/
theorem digest_eq_iff (first second : Buffer)
    : digest first = digest second
      ↔ magnitude (accumulate first) = magnitude (accumulate second) := by
  constructor
  · intro same
    have value (buffer : Buffer)
        : Text.numeralValue? Text.lowerDigit? (digest buffer).toList
          = some (magnitude (accumulate buffer)) :=
      Text.numeralValue?_hex (by decide) 8 _
    have values := value first
    rw [same, value second] at values
    exact (Option.some.inj values).symm
  · intro same
    rw [digest, digest, same]

/-- A single changed byte changes the accumulator. The checksum tells the change unless the
accumulators add up to zero modulo `2 ^ 32`, and whenever the bytes have different parity; witness:
numbers that add up to zero modulo an even one have the same parity.
-/
theorem changedByte_told {first second : Buffer} {position : Nat} {byte1 byte2 : UInt8}
    (only : DifferOnlyAt first second position byte1 byte2)
    : accumulate first ≠ accumulate second
      ∧ (digest first = digest second
        ↔ ((accumulate first).toNat + (accumulate second).toNat) % 2 ^ 32 = 0)
      ∧ (byte1.toNat % 2 ≠ byte2.toNat % 2 → digest first ≠ digest second) := by
  have apart := accumulate_ne only
  have folded : digest first = digest second
      ↔ ((accumulate first).toNat + (accumulate second).toNat) % 2 ^ 32 = 0 := by
    rw [digest_eq_iff, magnitude_eq_iff, or_iff_right apart]
  refine ⟨apart, folded, ?_⟩
  intro parity same
  have sum := folded.mp same
  apply parity
  rw [← toNat_accumulate_mod_two only]
  omega

/-- The last of these bytes can be changed in a way that only folding the sign hides, and in a way
that is always told.
-/
theorem changedByte_told_or_folded
    : DifferOnlyAt #[2, 13, 0, 9, 30, 12, 1] #[2, 13, 0, 9, 30, 12, 3] 6 1 3
      ∧ accumulate #[2, 13, 0, 9, 30, 12, 1] ≠ accumulate #[2, 13, 0, 9, 30, 12, 3]
      ∧ digest #[2, 13, 0, 9, 30, 12, 1] = digest #[2, 13, 0, 9, 30, 12, 3]
      ∧ DifferOnlyAt #[2, 13, 0, 9, 30, 12, 1] #[2, 13, 0, 9, 30, 12, 2] 6 1 2
      ∧ (1 : UInt8).toNat % 2 ≠ (2 : UInt8).toNat % 2
      ∧ digest #[2, 13, 0, 9, 30, 12, 1] ≠ digest #[2, 13, 0, 9, 30, 12, 2] := by
  have hidden : DifferOnlyAt #[2, 13, 0, 9, 30, 12, 1] #[2, 13, 0, 9, 30, 12, 3] 6 1 3 :=
    .push #[2, 13, 0, 9, 30, 12] (by decide)
  have odd : DifferOnlyAt #[2, 13, 0, 9, 30, 12, 1] #[2, 13, 0, 9, 30, 12, 2] 6 1 2 :=
    .push #[2, 13, 0, 9, 30, 12] (by decide)
  have parity : (1 : UInt8).toNat % 2 ≠ (2 : UInt8).toNat % 2 := by decide
  obtain ⟨apart, folded, -⟩ := changedByte_told hidden
  obtain ⟨-, -, told⟩ := changedByte_told odd
  exact ⟨hidden, apart, folded.mpr (by decide +kernel), odd, parity, told parity⟩

end Checksum

end Bytewise

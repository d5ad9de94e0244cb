import Bytewise.Proofs.Comparison.Positions

/-! Comparison in the other order. It gives the mirrored report: what is known of the two sides is
exchanged, and so are the two bytes of each entry; everything else stays as it is.
-/

namespace Bytewise

/-- What two buffers hold at a position, with the buffers exchanged. -/
def ByteDifference.mirror (entry : ByteDifference) : ByteDifference where
  position := entry.position
  byte1 := entry.byte2
  byte2 := entry.byte1
  char1 := entry.char2
  char2 := entry.char1

/-- What is known of two buffers, with the buffers exchanged. -/
def Comparison.mirror (comparison : Comparison) : Comparison where
  file1 := comparison.file2
  file2 := comparison.file1
  sizeMatch := comparison.sizeMatch
  similarity := comparison.similarity
  differences := comparison.differences
  byteValues := comparison.byteValues.map ByteDifference.mirror

theorem DiffersAt.symm {first second : Buffer} {position : Nat}
    (differs : DiffersAt first second position)
    : DiffersAt second first position := by
  rw [differsAt_iff] at differs ⊢
  exact differs.symm

/-- The positions are the same in both orders; witness: an ascending list is told by its members. -/
theorem differences_comm (first second : Buffer)
    : differences second first = differences first second := by
  apply (pairwise_differences second first).eq_of_mem_iff (pairwise_differences first second)
  intro position
  rw [mem_differences_iff, mem_differences_iff]
  exact ⟨DiffersAt.symm, DiffersAt.symm⟩

theorem sizesMatch_comm (first second : Buffer)
    : sizesMatch second first = sizesMatch first second :=
  BEq.comm

theorem Similarity.ofBuffers_comm (first second : Buffer)
    : ofBuffers second first = ofBuffers first second := by
  rw [ofBuffers, ofBuffers, differences_comm first second, Int.max_comm]

/-- Entries at the same positions mirror each other in the two orders. -/
theorem map_at_swap (first second : Buffer) (positions : List Nat)
    : positions.map (ByteDifference.at second first)
      = (positions.map (ByteDifference.at first second)).map ByteDifference.mirror := by
  rw [List.map_map]
  rfl

/-- Comparing two buffers in the other order gives the mirrored comparison, with as many
differences and the same answer to whether the buffers are identical.
-/
theorem Comparison.of_swap (file1 file2 : NamedBuffer)
    : of file2 file1 = (of file1 file2).mirror
      ∧ (of file2 file1).differenceCount = (of file1 file2).differenceCount
      ∧ (of file2 file1).identical = (of file1 file2).identical := by
  have swapped : of file2 file1 = (of file1 file2).mirror := by
    simp only [of, mirror, Comparison.mk.injEq, true_and]
    refine ⟨sizesMatch_comm .., Similarity.ofBuffers_comm .., differences_comm .., ?_⟩
    rw [differences_comm file1.content file2.content]
    exact map_at_swap ..
  rw [swapped]
  exact ⟨rfl, rfl, rfl⟩

end Bytewise

import Mathlib.Algebra.Order.Group.Abs
import Bytewise.Proofs.Comparison.Mirror

/-! The number of differences as a distance between buffers. It is that of sequences which go on
without bytes behind their ends, so no relation between the sizes of the buffers is needed.
-/

namespace Bytewise

/-- The number of positions at which two buffers differ. -/
def distance (first second : Buffer) : Nat :=
  (differences first second).length

/-- The laws of a distance. -/
structure IsMetric (distance : Buffer → Buffer → Nat) : Prop where
  eq_zero_iff (first second : Buffer) : distance first second = 0 ↔ first = second
  symm (first second : Buffer) : distance first second = distance second first
  triangle (first second third : Buffer)
    : distance first third ≤ distance first second + distance second third

/-- Where two buffers differ, a third one differs from one of them; witness: if it had the byte of
both there, or none, they would have the same.
-/
theorem DiffersAt.split {first third : Buffer} {position : Nat}
    (differs : DiffersAt first third position) (second : Buffer)
    : DiffersAt first second position ∨ DiffersAt second third position := by
  simp only [differsAt_iff] at differs ⊢
  by_cases same : first[position]? = second[position]?
  · exact Or.inr (same ▸ differs)
  · exact Or.inl same

/-- A detour over a third buffer has no fewer differences. Witness: none of the positions is listed
twice on the direct way, and each of them is listed on one part of the detour.
-/
theorem distance_triangle (first second third : Buffer)
    : distance first third ≤ distance first second + distance second third := by
  have listed : differences first third
      ⊆ differences first second ++ differences second third := by
    intro position member
    rw [mem_differences_iff] at member
    rw [List.mem_append, mem_differences_iff, mem_differences_iff]
    exact member.split second
  have fewer := ((nodup_differences first third).subperm listed).length_le
  rwa [List.length_append] at fewer

theorem distance_isMetric : IsMetric distance where
  eq_zero_iff first second :=
    List.length_eq_zero_iff.trans (differences_eq_nil_iff first second)
  symm first second := congrArg List.length (differences_comm second first)
  triangle := distance_triangle

/-- All positions between the ends of two buffers are listed. -/
theorem abs_sub_le_distance (first second : Buffer)
    : |(first.size : Int) - second.size| ≤ distance first second := by
  have overhanging : (overhang first second).length ≤ distance first second :=
    (List.sublist_append_right _ _).length_le
  rw [overhang, List.length_range'] at overhanging
  rw [abs_le]
  omega

/-- The number of differences is a distance between buffers, at least the difference of their sizes
and at most the larger size. It is what a comparison of them reports.
-/
theorem differenceCount_isMetric
    : IsMetric distance
      ∧ (∀ first second : Buffer,
          |(first.size : Int) - second.size| ≤ distance first second
          ∧ distance first second ≤ max first.size second.size)
      ∧ ∀ file1 file2 : NamedBuffer,
          (Comparison.of file1 file2).differenceCount
          = distance file1.content file2.content := by
  refine ⟨distance_isMetric, ?_, ?_⟩
  · intro first second
    exact ⟨abs_sub_le_distance first second, length_differences_le first second⟩
  · intro file1 file2
    rfl

/-- Three buffers whose common parts end at three places, the direct way as long as the detour. -/
example
    : distance #[1, 2, 3, 4] #[1] = 3
      ∧ distance #[1, 2, 3, 4] #[1, 2, 3] = 1
      ∧ distance #[1, 2, 3] #[1] = 2 := by
  decide

end Bytewise

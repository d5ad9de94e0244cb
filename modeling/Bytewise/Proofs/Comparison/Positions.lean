import Mathlib.Data.List.Sort
import Mathlib.Data.Set.Card
import Bytewise.Comparison

/-! The listed positions of a comparison. They ascend, so each of them is listed once, and they are
exactly those at which one buffer has another byte than the other, or none.
-/

namespace Bytewise

/-- Two buffers differ at a position by their bytes, or because only one of them has a byte. -/
inductive DiffersAt (first second : Buffer) (position : Nat) : Prop
  | bytes {byte1 byte2} (found1 : first[position]? = some byte1)
    (found2 : second[position]? = some byte2) (differ : byte1 ≠ byte2)
  | onlyFirst (inside : position < first.size) (past : second.size ≤ position)
  | onlySecond (past : first.size ≤ position) (inside : position < second.size)

/-- Buffers differ at a position exactly when a lookup there tells them apart, by which of them
reach as far as that.
-/
theorem differsAt_iff (first second : Buffer) (position : Nat)
    : DiffersAt first second position ↔ first[position]? ≠ second[position]? := by
  constructor
  · intro differs
    cases differs with
    | bytes found1 found2 differ => simpa [found1, found2] using differ
    | onlyFirst inside past =>
        simp [Array.getElem?_eq_getElem inside, Array.getElem?_eq_none past]
    | onlySecond past inside =>
        simp [Array.getElem?_eq_getElem inside, Array.getElem?_eq_none past]
  · intro apart
    by_cases inFirst : position < first.size
    · by_cases inSecond : position < second.size
      · refine .bytes (Array.getElem?_eq_getElem inFirst) (Array.getElem?_eq_getElem inSecond) ?_
        simpa [Array.getElem?_eq_getElem inFirst, Array.getElem?_eq_getElem inSecond] using apart
      · exact .onlyFirst inFirst (Nat.le_of_not_lt inSecond)
    · by_cases inSecond : position < second.size
      · exact .onlySecond (Nat.le_of_not_lt inFirst) inSecond
      · have absent : first[position]? = second[position]? := by
          rw [Array.getElem?_eq_none (Nat.le_of_not_lt inFirst),
            Array.getElem?_eq_none (Nat.le_of_not_lt inSecond)]
        exact absurd absent apart

theorem DiffersAt.lt {first second : Buffer} {position : Nat}
    (differs : DiffersAt first second position)
    : position < max first.size second.size := by
  cases differs with
  | bytes found1 _ _ =>
      have inside := (Array.getElem?_eq_some_iff.mp found1).1
      omega
  | onlyFirst inside _ => omega
  | onlySecond _ inside => omega

theorem mem_differences_iff (first second : Buffer) (position : Nat)
    : position ∈ differences first second ↔ DiffersAt first second position := by
  rw [mem_differences, differsAt_iff]

/-- The clashes are some of the numbers that the pairs of bytes have. -/
theorem pairwise_clashes (first second : Buffer)
    : (clashes first second).Pairwise (· < ·) := by
  have numbers : ((first.toList.zip second.toList).zipIdx.map Prod.snd).Pairwise (· < ·) := by
    rw [List.zipIdx_map_snd]
    exact List.pairwise_lt_range'
  exact numbers.sublist (List.filter_sublist.map Prod.snd)

/-- The listed positions ascend. Witness: both parts do, and where bytes clash both buffers have
one, so it is before the shorter end, from which the overhang goes on.
-/
theorem pairwise_differences (first second : Buffer)
    : (differences first second).Pairwise (· < ·) := by
  refine List.pairwise_append.mpr
    ⟨pairwise_clashes first second, List.pairwise_lt_range', ?_⟩
  intro clash clashes past overhangs
  obtain ⟨_, _, found1, found2, _⟩ := (mem_clashes _ _ _).mp clashes
  have inFirst := (Array.getElem?_eq_some_iff.mp found1).1
  have inSecond := (Array.getElem?_eq_some_iff.mp found2).1
  have least := ((mem_overhang _ _ _).mp overhangs).1
  omega

/-- Nothing is listed exactly when the buffers are equal; witness: they are when every lookup gives
the same.
-/
theorem differences_eq_nil_iff (first second : Buffer)
    : differences first second = [] ↔ first = second := by
  simp only [List.eq_nil_iff_forall_not_mem, mem_differences, ne_eq, Decidable.not_not]
  constructor
  · exact Array.ext_getElem?
  · rintro rfl position
    rfl

theorem Comparison.identical_iff (file1 file2 : NamedBuffer)
    : (Comparison.of file1 file2).identical ↔ file1.content = file2.content := by
  rw [identical, List.isEmpty_iff, ← differences_eq_nil_iff]
  rfl

/-- No position is listed twice. -/
theorem nodup_differences (first second : Buffer) : (differences first second).Nodup :=
  (pairwise_differences first second).imp Nat.ne_of_lt

/-- There are as many listed positions as positions at which the buffers differ; witness: the
list has each of them once.
-/
theorem length_differences (first second : Buffer)
    : (differences first second).length
      = {position | DiffersAt first second position}.ncard := by
  have same : {position | DiffersAt first second position}
      = ((differences first second).toFinset : Set Nat) := by
    ext position
    rw [Set.mem_ofPred_eq, List.coe_toFinset, Set.mem_ofPred_eq, mem_differences_iff]
  rw [same, Set.ncard_coe_finset, List.toFinset_card_of_nodup (nodup_differences first second)]

/-- No more positions are listed than the longer buffer has. -/
theorem length_differences_le (first second : Buffer)
    : (differences first second).length ≤ max first.size second.size := by
  have inside : differences first second ⊆ List.range (max first.size second.size) := by
    intro position listed
    exact List.mem_range.mpr ((mem_differences_iff ..).mp listed).lt
  have bound := ((nodup_differences first second).subperm inside).length_le
  rwa [List.length_range] at bound

/-- The listed positions ascend, and a number is listed exactly when it is a position inside one of
the buffers at which they differ. So nothing is listed, and the comparison calls the buffers
identical, exactly when they are equal.
-/
theorem differences_exact (first second : Buffer)
    : (differences first second).Pairwise (· < ·)
      ∧ (∀ number : Int,
          number ∈ (differences first second).map Int.ofNat
          ↔ 0 ≤ number
            ∧ number < (max first.size second.size : Nat)
            ∧ DiffersAt first second number.toNat)
      ∧ (differences first second = [] ↔ first = second)
      ∧ ∀ name1 name2,
          (Comparison.of ⟨name1, first⟩ ⟨name2, second⟩).identical ↔ first = second := by
  refine ⟨pairwise_differences first second, ?_, differences_eq_nil_iff first second, ?_⟩
  · intro number
    constructor
    · intro listed
      obtain ⟨position, member, rfl⟩ := List.mem_map.mp listed
      have differs := (mem_differences_iff _ _ _).mp member
      exact ⟨Int.natCast_nonneg position, Int.ofNat_lt.mpr differs.lt, differs⟩
    · rintro ⟨nonnegative, -, differs⟩
      have member := (mem_differences_iff _ _ _).mpr differs
      exact List.mem_map.mpr ⟨number.toNat, member, Int.toNat_of_nonneg nonnegative⟩
  · intro name1 name2
    exact Comparison.identical_iff ⟨name1, first⟩ ⟨name2, second⟩

end Bytewise

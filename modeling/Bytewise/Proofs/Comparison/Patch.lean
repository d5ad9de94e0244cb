import Bytewise.Comparison

/-! A listing of byte differences as a patch: the bytes that one side of it puts over a base
buffer. The listing of a comparison turns either of the two buffers into the other.
-/

namespace Bytewise.Patch

/-- The byte that the first entry at a position has on one side, and the base's where the listing
has no entry.
-/
def byteAt? (side : ByteDifference → Option UInt8) (listing : List ByteDifference)
    (base : Buffer) (position : Nat)
    : Option UInt8 :=
  match listing.find? (fun entry => entry.position == position) with
  | some entry => side entry
  | none => base[position]?

/-- The buffer of a given size with one side of a listing put over a base, if every position has
a byte.
-/
def overlay? (side : ByteDifference → Option UInt8) (listing : List ByteDifference)
    (base : Buffer) (size : Nat)
    : Option Buffer :=
  ((List.range size).mapM (byteAt? side listing base)).map List.toArray

/-- One side of a listing makes a target of a given size out of a base: it has a byte at each
listed position of the target, the base has one at each other position, and these bytes
together are the target.
-/
structure Makes (side : ByteDifference → Option UInt8) (listing : List ByteDifference)
    (base target : Buffer) (size : Nat)
    : Prop where
  listed : ∀ entry ∈ listing, entry.position < size → (side entry).isSome
  unlisted
    : ∀ position < size,
        (∀ entry ∈ listing, entry.position ≠ position) → position < base.size
  result : overlay? side listing base size = some target

theorem find?_lookups (first second : Buffer) (positions : List Nat) (position : Nat)
    : (positions.map (ByteDifference.at first second)).find?
          (fun entry => entry.position == position)
      = if position ∈ positions then some (.at first second position) else none := by
  induction positions with
  | nil => rfl
  | cons head rest ih =>
      rw [List.map_cons, List.find?_cons, ih]
      by_cases same : head = position
      · subst head
        simp [ByteDifference.at]
      · have other : position ≠ head := fun equal => same equal.symm
        have missed : (head == position) = false := beq_false_of_ne same
        simp [ByteDifference.at, missed, other]

theorem mapM_range_getElem? {α : Type} (values : List α)
    : (List.range values.length).mapM (fun index => values[index]?) = some values := by
  induction values with
  | nil => rfl
  | cons head rest ih =>
      rw [List.length_cons, List.range_succ_eq_map, List.mapM_cons, List.mapM_map]
      simp only [List.getElem?_cons_zero, Function.comp_def, List.getElem?_cons_succ, ih]
      rfl

/-- A lookup at positions counted from zero does not fail. -/
theorem bytesAt_natCast (first second : Buffer) (positions : List Nat)
    : bytesAt first second (positions.map Int.ofNat)
      = .ok (positions.map (ByteDifference.at first second)) := by
  have valid : (positions.map Int.ofNat).find? (· < 0) = none := by
    apply List.find?_eq_none.mpr
    intro position member
    obtain ⟨index, _, rfl⟩ := List.mem_map.mp member
    simp
  rw [bytesAt, valid]
  simp only [List.map_map, Function.comp_def, Int.ofNat_eq_natCast, Int.toNat_natCast]

/-- Lookups make a target out of a base when the side has the target's bytes and the base has them
wherever nothing was looked up. Witness: at every position, listed or not, the byte put there
is the target's.
-/
theorem makes_of_lookups {first second base target : Buffer} {positions : List Nat}
    {side : ByteDifference → Option UInt8}
    (read : ∀ position, side (.at first second position) = target[position]?)
    (kept : ∀ position, position ∉ positions → base[position]? = target[position]?)
    : Makes side (positions.map (ByteDifference.at first second)) base target
        target.size := by
  have placed : byteAt? side (positions.map (ByteDifference.at first second)) base
      = fun position => target.toList[position]? := by
    funext position
    rw [byteAt?, find?_lookups, Array.getElem?_toList]
    by_cases member : position ∈ positions
    · simp only [if_pos member, read]
    · simp only [if_neg member, kept position member]
  refine { listed := ?_, unlisted := ?_, result := ?_ }
  · intro entry member inside
    obtain ⟨position, _, rfl⟩ := List.mem_map.mp member
    have present : position < target.size := inside
    rw [read, Array.getElem?_eq_getElem present]
    rfl
  · intro position inside absent
    have unlisted : position ∉ positions := by
      intro member
      exact absent _ (List.mem_map_of_mem member) rfl
    have present := (kept position unlisted).trans (Array.getElem?_eq_getElem inside)
    exact (Array.getElem?_eq_some_iff.mp present).1
  · rw [overlay?, placed, ← Array.length_toList, mapM_range_getElem?]
    rfl

/-- The listing of a comparison is the lookup of its differences and loses nothing: its second
side makes the second buffer out of the first, its first side the first out of the second, and
no entry has the same on both sides.
-/
theorem comparison_listing (file1 file2 : NamedBuffer)
    : let comparison := Comparison.of file1 file2
      comparison.byteValues.map ByteDifference.position = comparison.differences
      ∧ bytesAt file1.content file2.content (comparison.differences.map Int.ofNat)
        = .ok comparison.byteValues
      ∧ Makes ByteDifference.byte2 comparison.byteValues file1.content file2.content
          comparison.file2.size
      ∧ Makes ByteDifference.byte1 comparison.byteValues file2.content file1.content
          comparison.file1.size
      ∧ ∀ entry ∈ comparison.byteValues, entry.byte1 ≠ entry.byte2 := by
  have agree : ∀ position, position ∉ differences file1.content file2.content →
      file1.content[position]? = file2.content[position]? := by
    intro position absent
    apply Decidable.byContradiction
    intro differ
    exact absent ((mem_differences _ _ _).mpr differ)
  refine ⟨?_, bytesAt_natCast .., ?_, ?_, ?_⟩
  · exact (List.map_map ..).trans (List.map_id _)
  · exact makes_of_lookups (fun _ => rfl) agree
  · exact makes_of_lookups (fun _ => rfl) (fun position absent => (agree position absent).symm)
  · intro entry member
    obtain ⟨position, listed, rfl⟩ := List.mem_map.mp member
    exact (mem_differences _ _ _).mp listed

end Bytewise.Patch

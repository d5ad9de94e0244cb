import Bytewise.Proofs.Buffer.Slices

/-! Buffers that agree at some positions. A slice or a number there is the same in both, whatever
they hold elsewhere.
-/

namespace Bytewise.Buffer

/-- Whether two buffers hold the same at each of `width` positions from `start` on: the same byte,
or none.
-/
def AgreeOn (first second : Buffer) (start width : Nat) : Prop :=
  ∀ index < width, first[start + index]? = second[start + index]?

instance (first second : Buffer) (start width : Nat)
    : Decidable (AgreeOn first second start width) :=
  inferInstanceAs (Decidable (∀ index < width, first[start + index]? = second[start + index]?))

variable {first second : Buffer} {start width : Nat}

/-- Buffers that agree at some positions agree at every part of them. -/
theorem AgreeOn.part (agree : first.AgreeOn second start width) {offset length : Nat}
    (after : start ≤ offset) (before : offset + length ≤ start + width)
    : first.AgreeOn second offset length := by
  intro index below
  have same := agree (offset - start + index) (by omega)
  rwa [← Nat.add_assoc, Nat.add_sub_cancel' after] at same

/-- A slice that is there is also in a buffer that agrees at its positions, whatever the sizes of the
two are; witness: the last byte of the slice is in both.
-/
theorem slice?_of_agree {bytes : List UInt8} (agree : first.AgreeOn second start width)
    (positive : 0 < width) (found : first.slice? start width = some bytes)
    : second.slice? start width = some bytes := by
  obtain ⟨-, length, same⟩ := slice?_eq_some_iff.mp found
  have last : second[start + (width - 1)]? = some (bytes[width - 1]) := by
    rw [← agree _ (by omega), same _ (by omega), List.getElem?_eq_getElem (by omega)]
  have inside := (Array.getElem?_eq_some_iff.mp last).1
  refine slice?_eq_some_iff.mpr ⟨by omega, length, ?_⟩
  intro index below
  rw [← agree index below, same index below]

/-- The slice at positions of agreement is the same in buffers of one size. -/
theorem slice?_congr (size : first.size = second.size)
    (agree : first.AgreeOn second start width)
    : first.slice? start width = second.slice? start width := by
  cases found : second.slice? start width with
  | none =>
      rw [slice?_eq_none_iff] at found ⊢
      rw [size]
      exact found
  | some bytes =>
      obtain ⟨inside, length, same⟩ := slice?_eq_some_iff.mp found
      refine slice?_eq_some_iff.mpr ⟨size ▸ inside, length, ?_⟩
      intro index below
      rw [agree index below]
      exact same index below

/-- The number at positions of agreement is the same in buffers of one size. -/
theorem read?_congr (size : first.size = second.size)
    (agree : first.AgreeOn second start width) (order : ByteOrder)
    : first.read? order width start = second.read? order width start := by
  rw [read?, read?, slice?_congr size agree]

end Bytewise.Buffer

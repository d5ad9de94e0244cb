import Bytewise.Proofs.Buffer.LittleEndian
import Bytewise.Proofs.Buffer.Slices

/-! Pieces of bytes written over a buffer. Pieces that follow each other without overlap are all
found in the buffer afterwards.
-/

namespace Bytewise

/-- Bytes and the offset that they stand at. -/
structure Piece where
  offset : Nat
  bytes : List UInt8

namespace Piece

def stop (piece : Piece) : Nat :=
  piece.offset + piece.bytes.length

/-- Whether the buffer holds the piece. -/
def IsIn (piece : Piece) (buffer : Buffer) : Prop :=
  buffer.slice? piece.offset piece.bytes.length = some piece.bytes

/-- Whether each piece begins at or after the end of the one before it, all of them between two
offsets.
-/
def Ordered (start : Nat) : List Piece → (limit : Nat) → Prop
  | [], limit => start ≤ limit
  | piece :: rest, limit => start ≤ piece.offset ∧ Ordered piece.stop rest limit

end Piece

namespace Buffer

/-- The buffer with the bytes of a piece in the place of its own. -/
def write (buffer : Buffer) (piece : Piece) : Buffer :=
  buffer.extract 0 piece.offset ++ piece.bytes.toArray
    ++ buffer.extract piece.stop buffer.size

/-- The buffer with some pieces written over it, one after the other. -/
def writeAll (buffer : Buffer) (pieces : List Piece) : Buffer :=
  pieces.foldl write buffer

end Buffer

-----------------------------------------------------------------------------------------
-- One piece
-----------------------------------------------------------------------------------------

namespace Buffer

theorem size_write {buffer : Buffer} {piece : Piece} (inside : piece.stop ≤ buffer.size)
    : (buffer.write piece).size = buffer.size := by
  have stop : piece.stop = piece.offset + piece.bytes.length := rfl
  simp only [write, Array.size_append, Array.size_extract, List.size_toArray]
  omega

/-- After writing, the bytes of the piece stand at their places and all others are unchanged. -/
theorem getElem?_write {buffer : Buffer} {piece : Piece} (inside : piece.stop ≤ buffer.size)
    (position : Nat)
    : (buffer.write piece)[position]?
      = if piece.offset ≤ position ∧ position < piece.stop then
          piece.bytes[position - piece.offset]?
        else
          buffer[position]? := by
  have stop : piece.stop = piece.offset + piece.bytes.length := rfl
  have front : (buffer.extract 0 piece.offset).size = piece.offset := by
    rw [Array.size_extract]
    omega
  have middle : (buffer.extract 0 piece.offset ++ piece.bytes.toArray).size = piece.stop := by
    rw [Array.size_append, front, List.size_toArray, stop]
  rw [write]
  by_cases before : position < piece.offset
  · rw [if_neg (by omega), Array.getElem?_append_left (by omega),
      Array.getElem?_append_left (by omega), Array.getElem?_extract, if_pos (by omega),
      Nat.zero_add]
  · by_cases within : position < piece.stop
    · rw [if_pos (by omega), Array.getElem?_append_left (by omega),
        Array.getElem?_append_right (by omega), front, List.getElem?_toArray]
    · rw [if_neg (by omega), Array.getElem?_append_right (by omega), middle,
        Array.getElem?_extract]
      split
      · rw [Nat.add_sub_cancel' (by omega)]
      · rw [Array.getElem?_eq_none (by omega)]

theorem isIn_write {buffer : Buffer} {piece : Piece} (inside : piece.stop ≤ buffer.size)
    : piece.IsIn (buffer.write piece) := by
  have stop : piece.stop = piece.offset + piece.bytes.length := rfl
  refine slice?_eq_some_iff.mpr ⟨?_, rfl, ?_⟩
  · rw [size_write inside]
    exact inside
  · intro index below
    rw [getElem?_write inside, if_pos (by omega), Nat.add_sub_cancel_left]

/-- A piece that ends before a written one is still in the buffer. -/
theorem isIn_write_of_stop_le {buffer : Buffer} {kept piece : Piece}
    (present : kept.IsIn buffer) (before : kept.stop ≤ piece.offset)
    (inside : piece.stop ≤ buffer.size)
    : kept.IsIn (buffer.write piece) := by
  have stop : kept.stop = kept.offset + kept.bytes.length := rfl
  obtain ⟨bound, length, same⟩ := slice?_eq_some_iff.mp present
  refine slice?_eq_some_iff.mpr ⟨?_, length, ?_⟩
  · rw [size_write inside]
    exact bound
  · intro index below
    rw [getElem?_write inside, if_neg (by omega)]
    exact same index below

end Buffer

-----------------------------------------------------------------------------------------
-- Reading a piece
-----------------------------------------------------------------------------------------

namespace Piece

/-- A piece that stores a number is read as that number. -/
theorem IsIn.read? {buffer : Buffer} {width offset number : Nat}
    (present : IsIn ⟨offset, littleBytes width number⟩ buffer) (fits : number < 256 ^ width)
    : buffer.read? .little width offset = some number := by
  rw [IsIn, length_littleBytes] at present
  rw [Buffer.read?, present, Option.map_some, ByteOrder.value, littleValue_littleBytes_of_lt fits]

/-- A piece inside a record of bytes is a part of the record. -/
theorem IsIn.of_record {buffer : Buffer} {offset width start : Nat}
    {record bytes : List UInt8}
    (present : IsIn ⟨offset + start, bytes⟩ buffer)
    (found : buffer.slice? offset width = some record)
    (inside : start + bytes.length ≤ width)
    : (record.drop start).take bytes.length = bytes := by
  have part := Buffer.slice?_within found inside
  rw [present, Option.some.injEq] at part
  exact part.symm

end Piece

-----------------------------------------------------------------------------------------
-- Pieces in order
-----------------------------------------------------------------------------------------

namespace Piece

theorem Ordered.le {start limit : Nat} {pieces : List Piece}
    (ordered : Ordered start pieces limit)
    : start ≤ limit := by
  induction pieces generalizing start with
  | nil => exact ordered
  | cons piece rest ih =>
      have tail := ih ordered.2
      have head := ordered.1
      have stop : piece.stop = piece.offset + piece.bytes.length := rfl
      omega

/-- Pieces in order, followed by pieces in order from their limit on, are in order. -/
theorem Ordered.append {start middle limit : Nat} {left right : List Piece}
    (first : Ordered start left middle) (second : Ordered middle right limit)
    : Ordered start (left ++ right) limit := by
  induction left generalizing start with
  | nil =>
      have le : start ≤ middle := first
      cases right with
      | nil => exact Nat.le_trans le second
      | cons piece rest => exact ⟨Nat.le_trans le second.1, second.2⟩
  | cons piece rest ih => exact ⟨first.1, ih first.2⟩

end Piece

namespace Buffer

theorem size_writeAll {buffer : Buffer} {start : Nat} {pieces : List Piece}
    (ordered : Piece.Ordered start pieces buffer.size)
    : (buffer.writeAll pieces).size = buffer.size := by
  induction pieces generalizing buffer start with
  | nil => rfl
  | cons piece rest ih =>
      have size := size_write ordered.2.le
      rw [writeAll, List.foldl_cons]
      exact (ih (by rw [size]; exact ordered.2)).trans size

/-- Writing ordered pieces keeps every piece before them, by induction on what is written. -/
theorem isIn_writeAll_of_stop_le {buffer : Buffer} {kept : Piece} {start : Nat}
    {pieces : List Piece}
    (present : kept.IsIn buffer) (before : kept.stop ≤ start)
    (ordered : Piece.Ordered start pieces buffer.size)
    : kept.IsIn (buffer.writeAll pieces) := by
  induction pieces generalizing buffer start with
  | nil => exact present
  | cons piece rest ih =>
      have inside : piece.stop ≤ buffer.size := ordered.2.le
      have apart : kept.stop ≤ piece.offset := Nat.le_trans before ordered.1
      have stop : piece.stop = piece.offset + piece.bytes.length := rfl
      rw [writeAll, List.foldl_cons]
      have next : kept.stop ≤ piece.stop := by omega
      refine ih (isIn_write_of_stop_le present apart inside) next ?_
      rw [size_write inside]
      exact ordered.2

/-- Ordered pieces are all in the buffer once they are written. Witness: each one is there when it
is written, and the ones behind it keep it.
-/
theorem isIn_writeAll {buffer : Buffer} {start : Nat} {pieces : List Piece}
    (ordered : Piece.Ordered start pieces buffer.size)
    : ∀ piece ∈ pieces, piece.IsIn (buffer.writeAll pieces) := by
  induction pieces generalizing buffer start with
  | nil => simp
  | cons piece rest ih =>
      have inside : piece.stop ≤ buffer.size := ordered.2.le
      have tail : Piece.Ordered piece.stop rest (buffer.write piece).size := by
        rw [size_write inside]
        exact ordered.2
      intro target member
      rw [writeAll, List.foldl_cons]
      rcases List.mem_cons.mp member with same | later
      · subst same
        exact isIn_writeAll_of_stop_le (isIn_write inside) (Nat.le_refl _) tail
      · exact ih tail target later

end Buffer

end Bytewise

import Bytewise.Buffer.Read

/-! Slices as the bytes that stand at their positions: slices of slices, and slices and reads in a
buffer that is longer at its end.
-/

namespace Bytewise.Buffer

/-- A slice consists of the bytes at its positions, all of which lie inside the buffer. -/
theorem slice?_eq_some_iff {buffer : Buffer} {offset width : Nat} {bytes : List UInt8}
    : buffer.slice? offset width = some bytes
      ↔ offset + width ≤ buffer.size
        ∧ bytes.length = width
        ∧ ∀ index < width, buffer[offset + index]? = bytes[index]? := by
  constructor
  · intro found
    have inside : offset + width ≤ buffer.size :=
      (slice?_isSome_iff buffer offset width).mp (Option.isSome_iff_exists.mpr ⟨_, found⟩)
    refine ⟨inside, length_of_slice? found, ?_⟩
    intro index bound
    rw [slice?, if_pos inside] at found
    cases found
    rw [Array.getElem?_toList, Array.getElem?_extract, if_pos (by omega)]
  · rintro ⟨inside, length, same⟩
    rw [slice?, if_pos inside, Option.some.injEq]
    apply List.ext_getElem?
    intro index
    rw [Array.getElem?_toList, Array.getElem?_extract]
    split
    · exact same index (by omega)
    · exact (List.getElem?_eq_none (by omega)).symm

theorem slice?_eq_none_iff {buffer : Buffer} {offset width : Nat}
    : buffer.slice? offset width = none ↔ buffer.size < offset + width := by
  rw [← Nat.not_le, ← slice?_isSome_iff, Option.not_isSome_iff_eq_none]

/-- A part of a slice is the slice at its own place. -/
theorem slice?_within {buffer : Buffer} {offset width start length : Nat}
    {bytes : List UInt8}
    (found : buffer.slice? offset width = some bytes) (inside : start + length ≤ width)
    : buffer.slice? (offset + start) length = some ((bytes.drop start).take length) := by
  obtain ⟨bound, size, same⟩ := slice?_eq_some_iff.mp found
  refine slice?_eq_some_iff.mpr ⟨by omega, ?_, ?_⟩
  · rw [List.length_take, List.length_drop]
    omega
  · intro index below
    rw [Nat.add_assoc, same (start + index) (by omega), List.getElem?_take_of_lt below,
      List.getElem?_drop]

/-- A number inside a slice is the number that is read at its own place. -/
theorem read?_within {buffer : Buffer} {offset width start length : Nat} {bytes : List UInt8}
    (found : buffer.slice? offset width = some bytes) (inside : start + length ≤ width)
    (order : ByteOrder)
    : buffer.read? order length (offset + start) = some (order.field length start bytes) := by
  rw [read?, slice?_within found inside, Option.map_some, ByteOrder.field]

/-- A slice consists of a front and of the slice behind it. -/
theorem slice?_add_eq_some_iff {buffer : Buffer} {offset first second : Nat}
    {bytes : List UInt8}
    : buffer.slice? offset (first + second) = some bytes
      ↔ ∃ left right,
          buffer.slice? offset first = some left
          ∧ buffer.slice? (offset + first) second = some right
          ∧ bytes = left ++ right := by
  constructor
  · intro found
    have length := length_of_slice? found
    have front : 0 + first ≤ first + second := by omega
    have rest : (bytes.drop first).take second = bytes.drop first :=
      List.take_of_length_le (by rw [List.length_drop]; omega)
    refine ⟨_, _, slice?_within found front, slice?_within found (Nat.le_refl _), ?_⟩
    rw [rest, List.drop_zero, List.take_append_drop]
  · rintro ⟨left, right, foundLeft, foundRight, rfl⟩
    obtain ⟨-, lengthLeft, sameLeft⟩ := slice?_eq_some_iff.mp foundLeft
    obtain ⟨inside, lengthRight, sameRight⟩ := slice?_eq_some_iff.mp foundRight
    refine slice?_eq_some_iff.mpr ⟨by omega, ?_, ?_⟩
    · rw [List.length_append, lengthLeft, lengthRight]
    · intro index below
      rcases Nat.lt_or_ge index first with front | behind
      · rw [List.getElem?_append_left (by omega), sameLeft index front]
      · rw [List.getElem?_append_right (by omega), lengthLeft,
          ← sameRight (index - first) (by omega), Nat.add_assoc, Nat.add_sub_cancel' behind]

/-- The slice of one byte is the byte itself. -/
theorem slice?_one (buffer : Buffer) (offset : Nat)
    : buffer.slice? offset 1 = buffer[offset]?.map (fun byte => [byte]) := by
  cases found : buffer[offset]? with
  | none =>
      have behind := Array.getElem?_eq_none_iff.mp found
      exact slice?_eq_none_iff.mpr (Nat.lt_succ_of_le behind)
  | some byte =>
      have inside := (Array.getElem?_eq_some_iff.mp found).1
      refine slice?_eq_some_iff.mpr ⟨inside, rfl, ?_⟩
      intro index first
      obtain rfl := Nat.lt_one_iff.mp first
      exact found

/-- A record of a table that is there has its index below the buffer's size; witness: it and each of
the records in front of it take up a byte.
-/
theorem lt_size_of_slice? {buffer : Buffer} {table index size width : Nat} {bytes : List UInt8}
    (found : buffer.slice? (table + index * size) width = some bytes) (sizePos : 0 < size)
    (widthPos : 0 < width)
    : index < buffer.size := by
  have inside := (slice?_eq_some_iff.mp found).1
  have room : index * 1 ≤ index * size := Nat.mul_le_mul_left index sizePos
  omega

/-- A buffer starts with the bytes of its first slice. -/
theorem startsWith_of_slice? {buffer : Buffer} {magic : List UInt8}
    (found : buffer.slice? 0 magic.length = some magic)
    : buffer.startsWith magic := by
  have inside := (slice?_eq_some_iff.mp found).1
  rw [slice?, if_pos inside, Option.some.injEq, Nat.zero_add] at found
  rw [startsWith, clip, found, beq_self_eq_true]

/-- A slice is still there when bytes are appended. -/
theorem slice?_append {buffer : Buffer} {offset width : Nat} {bytes : List UInt8}
    (found : buffer.slice? offset width = some bytes) (suffix : Buffer)
    : (buffer ++ suffix).slice? offset width = some bytes := by
  obtain ⟨bound, size, same⟩ := slice?_eq_some_iff.mp found
  refine slice?_eq_some_iff.mpr ⟨?_, size, ?_⟩
  · rw [Array.size_append]
    omega
  · intro index below
    rw [Array.getElem?_append_left (by omega)]
    exact same index below

theorem read?_append {buffer : Buffer} {order : ByteOrder} {width offset value : Nat}
    (found : buffer.read? order width offset = some value) (suffix : Buffer)
    : (buffer ++ suffix).read? order width offset = some value := by
  obtain ⟨bytes, present, rfl⟩ := Option.map_eq_some_iff.mp found
  rw [read?, slice?_append present suffix, Option.map_some]

theorem read?_eq_none_iff {buffer : Buffer} {order : ByteOrder} {width offset : Nat}
    : buffer.read? order width offset = none ↔ buffer.size < offset + width := by
  rw [read?, Option.map_eq_none_iff, slice?_eq_none_iff]

-----------------------------------------------------------------------------------------
-- What lies in the front of a longer buffer
-----------------------------------------------------------------------------------------

theorem clip_append_of_le {buffer : Buffer} {stop : Nat} (inside : stop ≤ buffer.size)
    (suffix : Buffer) (start : Nat)
    : (buffer ++ suffix).clip start stop = buffer.clip start stop := by
  rw [clip, clip, Array.toList_inj]
  apply Array.ext_getElem?
  intro index
  have longer : buffer.size ≤ (buffer ++ suffix).size := by simp
  rw [Array.getElem?_extract, Array.getElem?_extract, Nat.min_eq_left inside,
    Nat.min_eq_left (Nat.le_trans inside longer)]
  split
  · exact Array.getElem?_append_left (by omega)
  · rfl

theorem read?_append_of_le {buffer : Buffer} {width offset : Nat}
    (inside : offset + width ≤ buffer.size) (suffix : Buffer) (order : ByteOrder)
    : (buffer ++ suffix).read? order width offset = buffer.read? order width offset := by
  obtain ⟨bytes, found⟩ :=
    Option.isSome_iff_exists.mp ((slice?_isSome_iff buffer offset width).mpr inside)
  rw [read?, read?, found, slice?_append found suffix]

/-- A number that ends in the front of a buffer is read from the front alone. -/
theorem read?_front {width offset stop : Nat} (inside : offset + width ≤ stop)
    (buffer : Buffer) (order : ByteOrder)
    : read? (buffer.extract 0 stop) order width offset = buffer.read? order width offset := by
  rcases Nat.le_total stop buffer.size with shorter | longer
  · have front : (buffer.extract 0 stop).size = stop := by
      rw [Array.size_extract, Nat.min_eq_left shorter, Nat.sub_zero]
    have whole : buffer.extract 0 stop ++ buffer.extract stop = buffer := by
      rw [Array.extract_append_extract, Nat.zero_min, Nat.max_eq_right shorter,
        Array.extract_size]
    calc
      read? (buffer.extract 0 stop) order width offset
      _ = read? (buffer.extract 0 stop ++ buffer.extract stop) order width offset :=
          (read?_append_of_le (by omega) _ order).symm
      _ = buffer.read? order width offset := by rw [whole]
  · rw [Array.extract_eq_self_of_le longer]

theorem startsWith_front {magic : List UInt8} {stop : Nat} (inside : magic.length ≤ stop)
    (buffer : Buffer)
    : startsWith (buffer.extract 0 stop) magic = buffer.startsWith magic := by
  rw [startsWith, startsWith, clip, clip, Array.extract_extract, Nat.zero_add, Nat.zero_add,
    Nat.min_eq_left inside]

theorem startsWith_append {buffer : Buffer} {magic : List UInt8}
    (start : buffer.startsWith magic) (suffix : Buffer)
    : (buffer ++ suffix).startsWith magic := by
  rw [startsWith_iff] at start ⊢
  rw [Array.toList_append]
  exact start.trans (List.prefix_append _ _)

end Bytewise.Buffer

/-! Byte buffers, the slices of them that exist, and the bytes they begin with. -/

namespace Bytewise

/-- The content of a file in memory. -/
abbrev Buffer := Array UInt8

namespace Buffer

/-- The bytes at `offset, …, offset + width - 1`, absent unless all of them lie inside. -/
def slice? (buffer : Buffer) (offset width : Nat) : Option (List UInt8) :=
  if offset + width ≤ buffer.size then
    some (buffer.extract offset (offset + width)).toList
  else
    none

/-- The part of a slice that lies inside the buffer, possibly nothing. -/
def clip (buffer : Buffer) (start stop : Nat) : List UInt8 :=
  (buffer.extract start stop).toList

def startsWith (buffer : Buffer) (magic : List UInt8) : Bool :=
  buffer.clip 0 magic.length == magic

/-- The offset of the first zero byte at or after `offset`. -/
def zeroFrom? (buffer : Buffer) (offset : Nat) : Option Nat :=
  if inside : offset < buffer.size then
    if buffer[offset] = 0 then some offset else buffer.zeroFrom? (offset + 1)
  else
    none
termination_by buffer.size - offset

/-- The bytes from `offset` up to the next zero byte; none when no zero byte follows. -/
def zeroTerminated (buffer : Buffer) (offset : Nat) : List UInt8 :=
  match buffer.zeroFrom? offset with
  | some stop => buffer.clip offset stop
  | none => []

/-- The bytes that store a text in UTF-8. -/
def ofText (text : String) : Buffer :=
  text.toUTF8.data

/-- A slice is there exactly when it ends inside the buffer; witness: the test that it makes. -/
theorem slice?_isSome_iff (buffer : Buffer) (offset width : Nat)
    : (buffer.slice? offset width).isSome ↔ offset + width ≤ buffer.size := by
  unfold slice?
  split <;> simp_all

/-- A slice has as many bytes as were asked for; witness: it ends inside the buffer. -/
theorem length_of_slice? {buffer : Buffer} {offset width : Nat} {bytes : List UInt8}
    (found : buffer.slice? offset width = some bytes)
    : bytes.length = width := by
  unfold slice? at found
  split at found
  · cases found
    simp only [Array.length_toList, Array.size_extract]
    omega
  · cases found

/-- A buffer starts with the bytes that are a prefix of its own; witness: a prefix is what a list
of its length takes.
-/
theorem startsWith_iff (buffer : Buffer) (magic : List UInt8)
    : buffer.startsWith magic ↔ magic <+: buffer.toList := by
  simp only [startsWith, clip, Array.toList_extract, List.extract_eq_take_drop, Nat.sub_zero,
    List.drop_zero, beq_iff_eq, List.prefix_iff_eq_take]
  exact eq_comm

end Buffer

end Bytewise

import Bytewise.Buffer.Basic

/-! Unsigned integers stored in a buffer. A read is absent unless every byte of it lies
inside the buffer.
-/

namespace Bytewise

/-- Which end of a stored integer comes first. -/
inductive ByteOrder where
  | little
  | big
deriving DecidableEq, Repr

/-- The value of bytes stored with the least significant one first. -/
def littleValue : List UInt8 → Nat
  | [] => 0
  | byte :: rest => byte.toNat + 256 * littleValue rest

/-- The value of stored bytes. -/
def ByteOrder.value (order : ByteOrder) (bytes : List UInt8) : Nat :=
  match order with
  | .little => littleValue bytes
  | .big => littleValue bytes.reverse

/-- The integer of `width` bytes that stands at `offset` in a record of bytes. -/
def ByteOrder.field (order : ByteOrder) (width offset : Nat) (record : List UInt8) : Nat :=
  order.value ((record.drop offset).take width)

namespace Buffer

/-- The unsigned integer of `width` bytes at `offset`. -/
def read? (buffer : Buffer) (order : ByteOrder) (width offset : Nat) : Option Nat :=
  (buffer.slice? offset width).map order.value

def u8? (buffer : Buffer) (offset : Nat) : Option Nat :=
  buffer.read? .little 1 offset

def u16? (buffer : Buffer) (offset : Nat) : Option Nat :=
  buffer.read? .little 2 offset

def u32? (buffer : Buffer) (offset : Nat) : Option Nat :=
  buffer.read? .little 4 offset

/-- A little-endian read at an offset of any sign: no byte stands before the first one. -/
def readAt? (buffer : Buffer) (width : Nat) : Int → Option Nat
  | .ofNat offset => buffer.read? .little width offset
  | .negSucc _ => none

/-- The byte at an offset of any sign, which is compared with both ends of the buffer. -/
def byteAt? (buffer : Buffer) (offset : Int) : Option Nat :=
  if 0 ≤ offset ∧ offset < buffer.size then
    buffer[offset.toNat]?.map UInt8.toNat
  else
    none

end Buffer

end Bytewise

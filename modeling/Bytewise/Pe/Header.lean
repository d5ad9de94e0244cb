import Bytewise.Buffer.Read
import Bytewise.Flags

/-! The headers of a portable executable: where they stand, the fields that reports use, and
the names of machines and kinds of image.
-/

namespace Bytewise.Pe

/-- Where an image stores the offset of its header. -/
def headerPointer : Nat := 0x3C

def signature : List UInt8 := [0x50, 0x45, 0x00, 0x00]

/-- The offset of the header, when the pointer to it lies inside the buffer and leads to the
header's signature.
-/
def locate? (buffer : Buffer) : Option Nat :=
  (buffer.u32? headerPointer).filter (fun offset => buffer.slice? offset 4 = some signature)

/-- The fields of a header that reports use. A field past the end of the buffer is absent. -/
structure Header where
  machine : Option Nat
  sectionCount : Option Nat
  optionalHeaderSize : Option Nat
  characteristics : Option Nat
  magic : Option Nat
  entryPoint : Option Nat
deriving DecidableEq, Repr

def Header.read (buffer : Buffer) (offset : Nat) : Header where
  machine := buffer.u16? (offset + 4)
  sectionCount := buffer.u16? (offset + 6)
  optionalHeaderSize := buffer.u16? (offset + 20)
  characteristics := buffer.u16? (offset + 22)
  magic := buffer.u16? (offset + 24)
  entryPoint := buffer.u32? (offset + 40)

/-- The magic of an optional header with 64-bit addresses. -/
def wideMagic : Nat := 0x20B

/-- The machines that have a name of their own. -/
def machineNames : List (Int × String) :=
  [(0x014C, "x86 (32-bit)"), (0x0200, "IA64 (Itanium)"), (0x8664, "x64 (64-bit)"),
    (0x01C4, "ARM"), (0xAA64, "ARM64")]

/-- The name of a machine code; an absent or unlisted one is unknown. -/
def machineName (machine : Option Int) : String :=
  (machine.bind (fun code => machineNames.lookup code)).getD "Unknown"

/-- The kinds of image by the flag of the characteristics that marks them, strongest first. -/
def subtypeFlags : List (Nat × String) :=
  [(0x2000, "DLL"), (0x0002, "EXE"), (0x1000, "SYS")]

/-- The kind of image that the characteristics tell; absent or unmarked ones tell none. -/
def subtype (characteristics : Option Int) : String :=
  (characteristics.bind (fun word => Flags.firstLabel? subtypeFlags word)).getD "Unknown"

namespace Header

def machineName (header : Header) : String :=
  Pe.machineName (header.machine.map Int.ofNat)

def subtype (header : Header) : String :=
  Pe.subtype (header.characteristics.map Int.ofNat)

/-- The width of the image's addresses. -/
def architecture (header : Header) : String :=
  if header.magic = some wideMagic then "64-bit" else "32-bit"

end Header

end Bytewise.Pe

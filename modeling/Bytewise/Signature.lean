import Bytewise.Buffer.Basic

/-! The magic numbers that files begin with. -/

namespace Bytewise

inductive Signature where
  | mz
  | elf
  | machO32
  | machO64
  | zip
  | pdf
  | jpeg
  | png
  | gif
  | javaClass
deriving DecidableEq, Repr

namespace Signature

/-- The signatures in the order in which they are tried. -/
def all : List Signature :=
  [.mz, .elf, .machO32, .machO64, .zip, .pdf, .jpeg, .png, .gif, .javaClass]

/-- The name a signature is asked for by. -/
def name : Signature → String
  | .mz => "MZ"
  | .elf => "ELF"
  | .machO32 => "MACHO32"
  | .machO64 => "MACHO64"
  | .zip => "ZIP"
  | .pdf => "PDF"
  | .jpeg => "JPEG"
  | .png => "PNG"
  | .gif => "GIF"
  | .javaClass => "CLASS"

/-- The bytes a file with this signature begins with. -/
def bytes : Signature → List UInt8
  | .mz => [0x4D, 0x5A]
  | .elf => [0x7F, 0x45, 0x4C, 0x46]
  | .machO32 => [0xFE, 0xED, 0xFA, 0xCE]
  | .machO64 => [0xFE, 0xED, 0xFA, 0xCF]
  | .zip => [0x50, 0x4B, 0x03, 0x04]
  | .pdf => [0x25, 0x50, 0x44, 0x46]
  | .jpeg => [0xFF, 0xD8, 0xFF]
  | .png => [0x89, 0x50, 0x4E, 0x47]
  | .gif => [0x47, 0x49, 0x46, 0x38]
  | .javaClass => [0xCA, 0xFE, 0xBA, 0xBE]

def ofName? (name : String) : Option Signature :=
  all.find? (fun signature => signature.name == name)

/-- A signature is found under its name; witness: the names differ. -/
theorem ofName?_name (signature : Signature)
    : ofName? signature.name = some signature := by
  cases signature <;> rfl

def matchesStart (signature : Signature) (buffer : Buffer) : Bool :=
  buffer.startsWith signature.bytes

/-- The first entry of a table that the buffer begins with. -/
def firstMatch? (table : List Signature) (buffer : Buffer) : Option Signature :=
  table.find? (fun signature => signature.matchesStart buffer)

/-- The signature that the buffer begins with. -/
def match? (buffer : Buffer) : Option Signature :=
  firstMatch? all buffer

end Signature

end Bytewise

import Bytewise.Buffer.Read
import Bytewise.Structure

/-! The fields of an ELF header that reports use. They are read with the least significant byte
first, whatever byte order the image declares.
-/

namespace Bytewise.Elf

/-- The address widths by the class byte. -/
def classNames : List (Nat × String) :=
  [(1, "32-bit"), (2, "64-bit")]

/-- The address width that the class byte tells, if it is a known one. -/
def className? (buffer : Buffer) : Option String :=
  (buffer.u8? 4).bind (fun code => classNames.lookup code)

/-- The kinds of image by their code. -/
def typeNames : List (Nat × String) :=
  [(1, "REL"), (2, "EXEC"), (3, "DYN"), (4, "CORE")]

/-- The kind of image; an absent or unlisted code is unknown. -/
def typeName (buffer : Buffer) : String :=
  ((buffer.u16? 16).bind (fun code => typeNames.lookup code)).getD "Unknown"

/-- The machines that have a name of their own. -/
def machineNames : List (Int × String) :=
  [(3, "x86"), (62, "x86-64"), (40, "ARM"), (183, "ARM64")]

/-- The name of a machine code; an unlisted one is shown as a number. -/
def machineName : Option Int → String
  | none => "Unknown"
  | some code => (machineNames.lookup code).getD ("Unknown (" ++ toString code ++ ")")

/-- The reported header fields: the kind of image, its machine and its format version. -/
def headerFields (buffer : Buffer) : List HeaderField :=
  [{ name := "Type", value := typeName buffer },
    { name := "Machine", value := machineName ((buffer.u16? 18).map Int.ofNat) },
    { name := "Version", value := ((buffer.u32? 20).map toString).getD "Unknown" }]

end Bytewise.Elf

import Bytewise.Classify
import Bytewise.Elf.Imports
import Bytewise.Pe.Imports
import Bytewise.Pe.SectionTable

/-! The structure of a buffer, read for a format that the buffer really has. -/

namespace Bytewise

namespace Structure

/-- The structure of a portable executable whose header is at `offset`. -/
def ofPe (buffer : Buffer) (offset : Nat) : Structure :=
  let header := Pe.Header.read buffer offset
  {
    sections := some (Pe.sections buffer offset header)
    architecture := some header.architecture
    entryPoint := header.entryPoint.map (fun address => "0x" ++ Text.upperHex address)
    imports := Pe.imports? buffer offset
  }

def ofElf (buffer : Buffer) : Structure where
  headers := some (Elf.headerFields buffer)
  architecture := Elf.className? buffer
  imports := Elf.imports? buffer

/-- The structure of a buffer of the given format. It is empty for formats without headers, and
for a buffer that does not begin as the format does.
-/
def extract (buffer : Buffer) : Format → Structure
  | .windowsExecutable =>
      if Signature.mz.matchesStart buffer then
        match Pe.locate? buffer with
        | some offset => ofPe buffer offset
        | none => empty
      else
        empty
  | .elf => if Signature.elf.matchesStart buffer then ofElf buffer else empty
  | _ => empty

/-- The structure of a buffer of the format with the given tag; unknown tags have none. -/
def extractTagged (buffer : Buffer) (tag : String) : Structure :=
  match Format.ofTag? tag with
  | some format => extract buffer format
  | none => empty

/-- The structure of a buffer of the given file type. -/
def extractTyped (buffer : Buffer) (fileType : FileType) : Structure :=
  extract buffer fileType.format

end Structure

/-- The file type of a buffer and the structure that goes with it. -/
def inspect (buffer : Buffer) : FileType × Structure :=
  (classify buffer, Structure.extractTyped buffer (classify buffer))

end Bytewise

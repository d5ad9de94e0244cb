import Bytewise.Pe.Header
import Bytewise.Structure
import Bytewise.Text.Hex

/-! The section table of a portable executable. -/

namespace Bytewise.Pe

/-- The bytes of one entry of the table. -/
def sectionEntrySize : Nat := 40

/-- How many entries are reported at most. -/
def shownSections : Nat := 20

/-- The kinds of section by the flag that marks them, strongest first. -/
def sectionFlags : List (Nat × String) :=
  [(0x20, "Code"), (0x40, "Initialized Data"), (0x80, "Uninitialized Data"),
    (0x200, "Comments/Info")]

/-- The kind of section that its flags tell, possibly none. -/
def sectionDescription (flags : Int) : String :=
  (Flags.firstLabel? sectionFlags flags).getD ""

/-- The name in a fixed field, which ends before its first zero byte. -/
def sectionName (field : List UInt8) : String :=
  Text.ofLatin1 (field.takeWhile (· != 0))

/-- The section described by the bytes of an entry: its name in the first eight, its size at 16
and its flags at 36.
-/
def sectionOfEntry (entry : List UInt8) : Section where
  name := sectionName (entry.take 8)
  size := ByteOrder.little.field 4 16 entry
  description := sectionDescription (ByteOrder.little.field 4 36 entry)

/-- Where the section table of the header at `offset` begins: behind its optional header. -/
def Header.sectionTable (header : Header) (offset : Nat) : Nat :=
  offset + 24 + header.optionalHeaderSize.getD 0

/-- The sections of `count` entries from an offset on. The table ends early before an entry that
does not lie inside the buffer.
-/
def sectionsFrom (buffer : Buffer) : (offset count : Nat) → List Section
  | _, 0 => []
  | offset, count + 1 =>
      match buffer.slice? offset sectionEntrySize with
      | some entry =>
          sectionOfEntry entry :: sectionsFrom buffer (offset + sectionEntrySize) count
      | none => []

/-- The first sections of a table at `table` with `count` entries. -/
def sectionsAt (buffer : Buffer) (table count : Nat) : List Section :=
  sectionsFrom buffer table (min count shownSections)

/-- The sections that the header at `offset` declares. -/
def sections (buffer : Buffer) (offset : Nat) (header : Header) : List Section :=
  sectionsAt buffer (header.sectionTable offset) (header.sectionCount.getD 0)

end Bytewise.Pe

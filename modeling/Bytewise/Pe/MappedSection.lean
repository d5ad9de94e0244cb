import Bytewise.Buffer.Read

/-! The sections of a portable executable as a loader places them in its address space. -/

namespace Bytewise.Pe

-----------------------------------------------------------------------------------------
-- Alignment
-----------------------------------------------------------------------------------------

/-- The greatest multiple of an alignment that is not above a number; no alignment keeps the
number.
-/
def alignDown (alignment number : Nat) : Nat :=
  if alignment = 0 then number else number / alignment * alignment

/-- The size of a page of memory. -/
def pageSize : Nat := 0x1000

/-- The size of a sector, which file offsets of sections are rounded down to. -/
def sectorSize : Nat := 0x200

/-- The alignments that an image declares for its sections. -/
structure Alignment where
  memory : Nat
  file : Nat
deriving DecidableEq, Repr

/-- Where a section with a declared address begins. Images whose sections are less than a page
apart are aligned in memory as in the file.
-/
def Alignment.place (alignment : Alignment) (address : Nat) : Nat :=
  alignDown (if pageSize ≤ alignment.memory then alignment.memory else alignment.file) address

-----------------------------------------------------------------------------------------
-- Table entries
-----------------------------------------------------------------------------------------

/-- The fields of a section table entry that place the section. -/
structure SectionEntry where
  virtualSize : Nat
  address : Nat
  rawSize : Nat
  rawOffset : Nat
deriving DecidableEq, Repr

namespace SectionEntry

/-- The entry that a record of bytes stores. -/
def ofRecord (record : List UInt8) : SectionEntry where
  virtualSize := ByteOrder.little.field 4 8 record
  address := ByteOrder.little.field 4 12 record
  rawSize := ByteOrder.little.field 4 16 record
  rawOffset := ByteOrder.little.field 4 20 record

/-- The sector that the section's content begins in. -/
def sector (entry : SectionEntry) : Nat :=
  alignDown sectorSize entry.rawOffset

/-- Sizes and addresses above this are doubtful. -/
def doubtfulFrom : Nat := 0x10000000

/-- How many things about an entry are doubtful, in a file of the given length. -/
def doubts (entry : SectionEntry) (alignment : Alignment) (length : Nat) : Nat :=
  [decide (length < entry.rawSize + entry.rawOffset),
    decide (length < entry.sector),
    decide (doubtfulFrom < entry.virtualSize),
    decide (doubtfulFrom < alignment.place entry.address),
    alignment.file != 0 && entry.rawOffset % alignment.file != 0].count true

/-- How many doubts end the reading of a table. -/
def tooManyDoubts : Nat := 3

/-- The first `count` entries of the table at an offset. The table ends early at the end of the
buffer, at an entry of zeros and at one with too many doubts; it is unreadable when an entry
lies only partly inside the buffer.
-/
def table? (buffer : Buffer) (alignment : Alignment) (offset : Nat)
    : Nat → Option (List SectionEntry)
  | 0 => some []
  | count + 1 =>
      let record := buffer.clip offset (offset + 40)
      if record.isEmpty then
        some []
      else if record.length < 40 then
        none
      else if record.all (· == 0) then
        some []
      else
        let entry := ofRecord record
        if tooManyDoubts ≤ entry.doubts alignment buffer.size then
          some []
        else
          (table? buffer alignment (offset + 40) count).map (entry :: ·)

end SectionEntry

-----------------------------------------------------------------------------------------
-- Placement
-----------------------------------------------------------------------------------------

/-- A section in the address space: `size` addresses from `start` on, whose content is that of the
file from `fileStart` on, up to `fileEnd`.
-/
structure MappedSection where
  start : Nat
  size : Nat
  fileStart : Nat
  fileEnd : Nat
deriving DecidableEq, Repr

namespace MappedSection

def contains (mapped : MappedSection) (address : Nat) : Bool :=
  mapped.start ≤ address && address < mapped.start + mapped.size

/-- The file offset of an address of the section. -/
def fileOffset (mapped : MappedSection) (address : Nat) : Nat :=
  address - mapped.start + mapped.fileStart

/-- The size of a section at a place: its own, but not beyond the next section's address. -/
def clippedSize (start address size : Nat) (next : Option Nat) : Nat :=
  match next with
  | some next => if address < next ∧ next < start + size then next - start else size
  | none => size

/-- The section of an entry in a file of the given length, before another section. -/
def ofEntry (alignment : Alignment) (length : Nat) (entry : SectionEntry)
    (next : Option Nat)
    : MappedSection :=
  let start := alignment.place entry.address
  let fileStart :=
    if alignment.memory < pageSize ∧ entry.rawOffset = entry.address then
      entry.address
    else
      entry.sector
  let size :=
    if length < entry.rawSize + fileStart then
      entry.virtualSize
    else
      max entry.rawSize entry.virtualSize
  {
    start
    size := clippedSize start entry.address size next
    fileStart
    fileEnd := entry.rawOffset + entry.rawSize
  }

/-- The sections of entries in the order of their addresses. -/
def ofEntries (alignment : Alignment) (length : Nat)
    : List SectionEntry → List MappedSection
  | [] => []
  | entry :: rest =>
      ofEntry alignment length entry (rest.head?.map SectionEntry.address)
        :: ofEntries alignment length rest

end MappedSection

end Bytewise.Pe

import Bytewise.Pe.Header
import Bytewise.Pe.MappedSection

/-! A portable executable seen by addresses: what its import tables are read through. -/

namespace Bytewise.Pe

/-- An image in a buffer. Outside its sections, addresses are file offsets, and the header's end
bounds what is read inside the header.
-/
structure Image where
  bytes : Buffer
  wide : Bool
  sections : List MappedSection
  headerEnd : Nat
  entryPoint : Nat
  importTable : Nat

namespace Image

/-- The least part of an optional header that makes an image readable. -/
def leastOptionalHeader (wide : Bool) : Nat :=
  if wide then 73 else 69

/-- Where an optional header stores the number of its directories; they follow it. -/
def directoryCountOffset (wide : Bool) : Nat :=
  if wide then 108 else 92

/-- The address that an optional header tells for the import descriptors, zero when there is no
directory of them. Missing bytes of the header count as zero.
-/
def importAddress (wide : Bool) (optionalHeader : List UInt8) : Nat :=
  let countOffset := directoryCountOffset wide
  if 2 ≤ ByteOrder.little.field 4 countOffset optionalHeader % 0x80000000 then
    ByteOrder.little.field 4 (countOffset + 12) optionalHeader
  else
    0

/-- Where the header of an image ends: not before its section table, and else where the first
section's content begins.
-/
def headerEndOf (tableEnd : Nat) (entries : List SectionEntry) : Nat :=
  let sectors := (entries.filter (fun entry => 0 < entry.rawOffset)).map SectionEntry.sector
  max tableEnd (sectors.min?.getD 0)

def read? (buffer : Buffer) (offset : Nat) : Option Image := do
  let start := offset + 24
  let wide := buffer.u16? start == some wideMagic
  if buffer.size < start + leastOptionalHeader wide then
    none
  else
    let optionalHeader := buffer.clip start (start + 256)
    let alignment : Alignment :=
      {
        memory := ByteOrder.little.field 4 32 optionalHeader
        file := ByteOrder.little.field 4 36 optionalHeader
      }
    let declared := (buffer.u16? (offset + 6)).getD 0
    let table := start + (buffer.u16? (offset + 20)).getD 0
    let entries ← SectionEntry.table? buffer alignment table declared
    let tableEnd := if entries.isEmpty then table else table + 40 * declared
    return {
      bytes := buffer
      wide
      sections :=
        MappedSection.ofEntries alignment buffer.size
          (entries.mergeSort (fun first second => first.address ≤ second.address))
      headerEnd := headerEndOf tableEnd entries
      entryPoint := ByteOrder.little.field 4 16 optionalHeader
      importTable := importAddress wide optionalHeader
    }

/-- The bytes of an entry of a thunk table. -/
def wordSize (image : Image) : Nat :=
  if image.wide then 8 else 4

/-- Whether an entry of a thunk table is an ordinal, which its top bit tells. -/
def isOrdinal (image : Image) (entry : Nat) : Bool :=
  (if image.wide then 0x8000000000000000 else 0x80000000) ≤ entry

/-- Up to `count` bytes at an address, given the section that it lies in. Outside the sections
they are absent only past the end of the file.
-/
def bytesAt? (image : Image) (mapped : Option MappedSection) (address count : Nat)
    : Option (List UInt8) :=
  match mapped with
  | some mapped =>
      let start := mapped.fileOffset address
      some (image.bytes.clip start (min (start + count) mapped.fileEnd))
  | none =>
      if image.bytes.size ≤ address then
        none
      else if address < image.headerEnd then
        some (image.bytes.clip address (min (address + count) image.headerEnd))
      else
        some (image.bytes.clip address (address + count))

end Image

-----------------------------------------------------------------------------------------
-- Walks
-----------------------------------------------------------------------------------------

/-- What a walk through the import tables carries along: the section that an address was last
found in, which is preferred where sections overlap, and how many thunk table entries may
still be read.
-/
structure Cursor where
  lastSection : Option MappedSection
  budget : Nat

/-- A part of a walk through the import tables. -/
abbrev Walk := StateM Cursor

namespace Image

def sectionOf (image : Image) (address : Nat) : Walk (Option MappedSection) := do
  let cursor ← get
  match cursor.lastSection.filter (fun mapped => mapped.contains address) with
  | some mapped => return some mapped
  | none =>
      match image.sections.find? (fun mapped => mapped.contains address) with
      | some mapped =>
          set { cursor with lastSection := some mapped }
          return some mapped
      | none => return none

/-- Up to `count` bytes at an address. -/
def fetch? (image : Image) (address count : Nat) : Walk (Option (List UInt8)) := do
  return image.bytesAt? (← image.sectionOf address) address count

/-- Exactly `count` bytes at an address. -/
def fetchAll? (image : Image) (address count : Nat) : Walk (Option (List UInt8)) := do
  return (← image.fetch? address count).filter (fun bytes => bytes.length == count)

def fileOffset (image : Image) (address : Nat) : Walk Nat := do
  return ((← image.sectionOf address).map (fun mapped => mapped.fileOffset address)).getD
    address

/-- The most bytes of a name. -/
def longestName : Nat := 512

/-- The name at an address, up to a zero byte. -/
def nameAt (image : Image) (address : Nat) : Walk (List UInt8) := do
  let bytes :=
    match ← image.sectionOf address with
    | some mapped => (image.bytesAt? (some mapped) address longestName).getD []
    | none => image.bytes.clip address (address + longestName)
  return bytes.takeWhile (· != 0)

end Image

end Bytewise.Pe

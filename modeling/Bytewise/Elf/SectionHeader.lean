import Bytewise.Elf.Header
import Bytewise.Text.Utf8

/-! The section headers of an ELF image and the strings they refer to, in the image's own byte
order and address width. Whatever cannot be read is absent.
-/

namespace Bytewise.Elf

/-- How an image stores its integers: whether addresses take eight bytes instead of four, and
which end comes first.
-/
structure Layout where
  wide : Bool
  order : ByteOrder
deriving DecidableEq, Repr

namespace Layout

/-- The address width that a class byte declares. -/
def wide? : Option Nat → Option Bool
  | some 1 => some false
  | some 2 => some true
  | _ => none

/-- The byte order that a data byte declares. -/
def order? : Option Nat → Option ByteOrder
  | some 1 => some .little
  | some 2 => some .big
  | _ => none

/-- The layout that the image declares. -/
def read? (buffer : Buffer) : Option Layout := do
  let wide ← wide? (buffer.u8? 4)
  let order ← order? (buffer.u8? 5)
  return { wide, order }

def fileHeaderSize (layout : Layout) : Nat :=
  if layout.wide then 64 else 52

def sectionHeaderSize (layout : Layout) : Nat :=
  if layout.wide then 64 else 40

def symbolSize (layout : Layout) : Nat :=
  if layout.wide then 24 else 16

/-- An integer of `width` bytes, at one offset in records with short addresses and at another in
records with long ones.
-/
def field (layout : Layout) (width short long : Nat) (record : List UInt8) : Nat :=
  layout.order.field width (if layout.wide then long else short) record

/-- An address, at one offset in records with short addresses and at another in records with
long ones.
-/
def address (layout : Layout) (short long : Nat) (record : List UInt8) : Nat :=
  layout.field (if layout.wide then 8 else 4) short long record

end Layout

/-- Where a file header says that the section headers are. -/
structure FileHeader where
  layout : Layout
  tableOffset : Nat
  entrySize : Nat
  declaredCount : Nat
  namesIndex : Nat
deriving DecidableEq, Repr

/-- The file header, when all of it lies inside the buffer. -/
def FileHeader.read? (buffer : Buffer) : Option FileHeader := do
  let layout ← Layout.read? buffer
  let record ← buffer.slice? 0 layout.fileHeaderSize
  return {
    layout
    tableOffset := layout.address 0x20 0x28 record
    entrySize := layout.field 2 0x2E 0x3A record
    declaredCount := layout.field 2 0x30 0x3C record
    namesIndex := layout.field 2 0x32 0x3E record
  }

structure SectionHeader where
  nameOffset : Nat
  kind : Nat
  offset : Nat
  size : Nat
  link : Nat
  entrySize : Nat
deriving DecidableEq, Repr

namespace SectionHeader

/-- The section header that a record of bytes stores. -/
def ofRecord (layout : Layout) (record : List UInt8) : SectionHeader where
  nameOffset := layout.field 4 0 0 record
  kind := layout.field 4 4 4 record
  offset := layout.address 16 24 record
  size := layout.address 20 32 record
  link := layout.field 4 24 40 record
  entrySize := layout.address 36 56 record

/-- Whether the section holds symbols, of the link editor or of the loader. -/
def isSymbolTable (header : SectionHeader) : Bool :=
  header.kind == 2 || header.kind == 11

def isStringTable (header : SectionHeader) : Bool :=
  header.kind == 3

end SectionHeader

namespace FileHeader

/-- The section header of a given index. Entries too small for one hold none. -/
def section? (file : FileHeader) (buffer : Buffer) (index : Nat) : Option SectionHeader :=
  if file.layout.sectionHeaderSize ≤ file.entrySize then
    (buffer.slice? (file.tableOffset + index * file.entrySize)
      file.layout.sectionHeaderSize).map (SectionHeader.ofRecord file.layout)
  else
    none

/-- The number of sections. A count too large for its field stands in the first header's size,
and an image without a table has no sections.
-/
def sectionCount? (file : FileHeader) (buffer : Buffer) : Option Nat :=
  if file.tableOffset = 0 then
    some 0
  else if file.declaredCount = 0 then
    (file.section? buffer 0).map SectionHeader.size
  else
    some file.declaredCount

/-- The mark of an index that is too large for its field. -/
def extendedIndex : Nat := 0xFFFF

/-- The string table with the sections' names. An index too large for its field stands in the
first header's link.
-/
def names? (file : FileHeader) (buffer : Buffer) : Option SectionHeader :=
  if file.namesIndex = extendedIndex then
    (file.section? buffer 0).bind (fun first => file.section? buffer first.link)
  else
    file.section? buffer file.namesIndex

end FileHeader

/-- The least offset that no file can be read at. -/
def offsetLimit : Nat := 0x8000000000000000

/-- The string at an offset of a string table. It ends before the next zero byte, wherever the
table ends.
-/
def SectionHeader.string? (table : SectionHeader) (buffer : Buffer) (offset : Nat)
    : Option String :=
  if table.offset + offset < offsetLimit then
    some (Text.Utf8.decode (buffer.zeroTerminated (table.offset + offset)))
  else
    none

end Bytewise.Elf

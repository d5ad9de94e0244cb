import Bytewise.Elf.Imports
import Bytewise.Proofs.Buffer.LittleEndian
import Bytewise.Proofs.Buffer.Slices

/-! The records of an ELF image, byte for byte. Each number of a file header, of a section header
and of a symbol is read at the place that it has for the declared address width, in the declared
byte order, and a record is there exactly when all of it lies inside the buffer.
-/

namespace Bytewise

/-- Of bytes with the most significant one first, that one counts the power that the others stay
below.
-/
theorem ByteOrder.value_big_cons (byte : UInt8) (rest : List UInt8)
    : ByteOrder.big.value (byte :: rest)
      = byte.toNat * 256 ^ rest.length + ByteOrder.big.value rest := by
  rw [value, value, List.reverse_cons, littleValue_append, littleValue, littleValue,
    List.length_reverse, Nat.mul_zero, Nat.add_zero, Nat.add_comm, Nat.mul_comm]

namespace Elf

-----------------------------------------------------------------------------------------
-- Numbers of a record
-----------------------------------------------------------------------------------------

namespace Layout

/-- One of two numbers, by the width of addresses. -/
def pick (layout : Layout) (short long : Nat) : Nat :=
  if layout.wide then long else short

/-- A number of `width` bytes stands in a record that begins at `start`, at one offset if addresses
are short and at another if they are long.
-/
def Stores (layout : Layout) (buffer : Buffer) (start width short long number : Nat) : Prop :=
  buffer.read? layout.order width (start + layout.pick short long) = some number

/-- An address stands in a record: in four bytes if it is a short one, and in eight if it is long.
-/
def StoresAddress (layout : Layout) (buffer : Buffer) (start short long number : Nat) : Prop :=
  layout.Stores buffer start (layout.pick 4 8) short long number

variable {layout : Layout} {buffer : Buffer} {start width short long shortSize longSize : Nat}
  {record : List UInt8}

theorem Stores.unique {number other : Nat}
    (first : layout.Stores buffer start width short long number)
    (second : layout.Stores buffer start width short long other)
    : number = other :=
  Option.some.inj (first.symm.trans second)

/-- A field of a record is the number that stands in it. -/
theorem stores_field
    (found : buffer.slice? start (layout.pick shortSize longSize) = some record)
    (insideShort : short + width ≤ shortSize) (insideLong : long + width ≤ longSize)
    : layout.Stores buffer start width short long (layout.field width short long record) := by
  apply Buffer.read?_within found
  rw [pick, pick]
  split <;> assumption

theorem storesAddress_address
    (found : buffer.slice? start (layout.pick shortSize longSize) = some record)
    (insideShort : short + 4 ≤ shortSize) (insideLong : long + 8 ≤ longSize)
    : layout.StoresAddress buffer start short long (layout.address short long record) := by
  apply Buffer.read?_within found
  rw [pick, pick, pick]
  split <;> assumption

/-- The layout is declared by the two bytes behind the signature. -/
theorem read?_eq_some_iff
    : read? buffer = some layout
      ↔ buffer.u8? 4 = some (layout.pick 1 2)
        ∧ buffer.u8? 5 = some (if layout.order = .big then 2 else 1) := by
  have wide_iff (code : Option Nat) (wide : Bool)
      : wide? code = some wide ↔ code = some (if wide then 2 else 1) := by
    cases wide <;> grind [wide?]
  have order_iff (code : Option Nat) (order : ByteOrder)
      : order? code = some order ↔ code = some (if order = .big then 2 else 1) := by
    cases order <;> grind [order?]
  rw [read?, pick, ← wide_iff, ← order_iff]
  simp only [Option.bind_eq_bind, Option.bind_eq_some_iff]
  constructor
  · rintro ⟨wide, declaredWide, order, declaredOrder, ⟨⟩⟩
    exact ⟨declaredWide, declaredOrder⟩
  · rintro ⟨declaredWide, declaredOrder⟩
    exact ⟨_, declaredWide, _, declaredOrder, rfl⟩

end Layout

-----------------------------------------------------------------------------------------
-- Records
-----------------------------------------------------------------------------------------

/-- The numbers of a section header stand in the record that begins at an offset. -/
structure SectionHeader.StoredAt (layout : Layout) (buffer : Buffer) (start : Nat)
    (header : SectionHeader)
    : Prop where
  inside : start + layout.pick 40 64 ≤ buffer.size
  nameOffset : layout.Stores buffer start 4 0 0 header.nameOffset
  kind : layout.Stores buffer start 4 4 4 header.kind
  offset : layout.StoresAddress buffer start 16 24 header.offset
  size : layout.StoresAddress buffer start 20 32 header.size
  link : layout.Stores buffer start 4 24 40 header.link
  entrySize : layout.StoresAddress buffer start 36 56 header.entrySize

/-- The numbers of a file header stand in the record that the buffer begins with. -/
structure FileHeader.Stored (buffer : Buffer) (file : FileHeader) : Prop where
  layout : Layout.read? buffer = some file.layout
  inside : file.layout.pick 52 64 ≤ buffer.size
  tableOffset : file.layout.StoresAddress buffer 0 0x20 0x28 file.tableOffset
  entrySize : file.layout.Stores buffer 0 2 0x2E 0x3A file.entrySize
  declaredCount : file.layout.Stores buffer 0 2 0x30 0x3C file.declaredCount
  namesIndex : file.layout.Stores buffer 0 2 0x32 0x3E file.namesIndex

/-- A symbol stands in the record that begins at an offset: the offset of its name among some
strings, and the section that defines it.
-/
structure Symbol.StoredAt (layout : Layout) (strings : SectionHeader) (buffer : Buffer)
    (start : Nat) (symbol : Symbol)
    : Prop where
  inside : start + layout.pick 16 24 ≤ buffer.size
  name
    : ∃ offset,
        layout.Stores buffer start 4 0 0 offset
        ∧ strings.string? buffer offset = some symbol.name
  sectionIndex : layout.Stores buffer start 2 14 6 symbol.sectionIndex

variable {layout : Layout} {buffer : Buffer} {start : Nat} {record : List UInt8}

theorem SectionHeader.storedAt_ofRecord
    (found : buffer.slice? start (layout.pick 40 64) = some record)
    : (ofRecord layout record).StoredAt layout buffer start where
  inside := (Buffer.slice?_eq_some_iff.mp found).1
  nameOffset := Layout.stores_field found (by decide) (by decide)
  kind := Layout.stores_field found (by decide) (by decide)
  offset := Layout.storesAddress_address found (by decide) (by decide)
  size := Layout.storesAddress_address found (by decide) (by decide)
  link := Layout.stores_field found (by decide) (by decide)
  entrySize := Layout.storesAddress_address found (by decide) (by decide)

/-- Two headers that stand at one place are the same, number by number. -/
theorem SectionHeader.StoredAt.unique {header other : SectionHeader}
    (first : header.StoredAt layout buffer start) (second : other.StoredAt layout buffer start)
    : header = other := by
  cases header
  cases other
  congr
  · exact first.nameOffset.unique second.nameOffset
  · exact first.kind.unique second.kind
  · exact first.offset.unique second.offset
  · exact first.size.unique second.size
  · exact first.link.unique second.link
  · exact first.entrySize.unique second.entrySize

namespace FileHeader

variable {file : FileHeader}

/-- A file header is read exactly when it stands at the start. -/
theorem read?_eq_some_iff : read? buffer = some file ↔ file.Stored buffer := by
  rw [read?]
  simp only [Option.bind_eq_bind, Option.bind_eq_some_iff]
  constructor
  · rintro ⟨layout, declared, record, found, ⟨⟩⟩
    have slice : buffer.slice? 0 (layout.pick 52 64) = some record := found
    refine { layout := declared, inside := ?_, tableOffset := ?_, entrySize := ?_,
             declaredCount := ?_, namesIndex := ?_ }
    · simpa using (Buffer.slice?_eq_some_iff.mp slice).1
    · exact Layout.storesAddress_address slice (by decide) (by decide)
    · exact Layout.stores_field slice (by decide) (by decide)
    · exact Layout.stores_field slice (by decide) (by decide)
    · exact Layout.stores_field slice (by decide) (by decide)
  · intro stored
    have inside : 0 + file.layout.pick 52 64 ≤ buffer.size := by simpa using stored.inside
    obtain ⟨record, slice⟩ :=
      Option.isSome_iff_exists.mp ((Buffer.slice?_isSome_iff ..).mpr inside)
    refine ⟨_, stored.layout, record, slice, congrArg some ?_⟩
    obtain ⟨layout, tableOffset, entrySize, declaredCount, namesIndex⟩ := file
    congr
    · exact (Layout.storesAddress_address slice (by decide) (by decide)).unique stored.tableOffset
    · exact (Layout.stores_field slice (by decide) (by decide)).unique stored.entrySize
    · exact (Layout.stores_field slice (by decide) (by decide)).unique stored.declaredCount
    · exact (Layout.stores_field slice (by decide) (by decide)).unique stored.namesIndex

/-- A section header is read exactly when entries are large enough for one and it stands at its
index.
-/
theorem section?_eq_some_iff {index : Nat} {header : SectionHeader}
    : file.section? buffer index = some header
      ↔ file.layout.pick 40 64 ≤ file.entrySize
        ∧ header.StoredAt file.layout buffer (file.tableOffset + index * file.entrySize) := by
  rw [section?, Option.ite_none_right_eq_some, Option.map_eq_some_iff]
  refine and_congr_right (fun _ => ?_)
  constructor
  · rintro ⟨record, slice, rfl⟩
    exact SectionHeader.storedAt_ofRecord slice
  · intro stored
    obtain ⟨record, slice⟩ :=
      Option.isSome_iff_exists.mp ((Buffer.slice?_isSome_iff ..).mpr stored.inside)
    exact ⟨record, slice, (SectionHeader.storedAt_ofRecord slice).unique stored⟩

/-- A symbol is read exactly when it stands at its index. -/
theorem symbol?_eq_some_iff {table strings : SectionHeader} {index : Nat} {symbol : Symbol}
    : file.symbol? buffer table strings index = some symbol
      ↔ symbol.StoredAt file.layout strings buffer (table.offset + index * table.entrySize) := by
  rw [symbol?]
  simp only [Option.bind_eq_bind, Option.bind_eq_some_iff]
  constructor
  · rintro ⟨record, found, name, named, ⟨⟩⟩
    have slice : buffer.slice? _ (file.layout.pick 16 24) = some record := found
    exact {
      inside := (Buffer.slice?_eq_some_iff.mp slice).1
      name := ⟨_, Layout.stores_field slice (by decide) (by decide), named⟩
      sectionIndex := Layout.stores_field slice (by decide) (by decide)
    }
  · rintro ⟨inside, ⟨offset, stored, named⟩, sectionIndex⟩
    obtain ⟨record, slice⟩ :=
      Option.isSome_iff_exists.mp ((Buffer.slice?_isSome_iff ..).mpr inside)
    have offsets := (Layout.stores_field slice (by decide) (by decide)).unique stored
    have indices := (Layout.stores_field slice (by decide) (by decide)).unique sectionIndex
    refine ⟨record, slice, symbol.name, ?_, ?_⟩
    · rw [offsets]
      exact named
    · rw [indices]
      rfl

end FileHeader

end Elf

end Bytewise

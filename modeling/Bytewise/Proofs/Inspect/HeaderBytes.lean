import Bytewise.Proofs.Buffer.Agreement
import Bytewise.Proofs.Inspect.Recognition

/-! The bytes that decide what is told of an executable image. Two images of one size that have the
same header bytes, and the same bytes in the fields of their sections, are told alike, whatever
else is in them.
-/

namespace Bytewise

namespace Pe

-----------------------------------------------------------------------------------------
-- The bytes of a header
-----------------------------------------------------------------------------------------

/-- Two section entries at the same place have the same name, size and flags. -/
structure SameEntry (first second : Buffer) (entry : Nat) : Prop where
  name : first.AgreeOn second entry 8
  size : first.AgreeOn second (entry + 16) 4
  flags : first.AgreeOn second (entry + 36) 4

/-- Two headers at the same place have the same fields: the machine and the count of sections, the
size of the optional header up to its magic, the entry point, and the first twenty sections as
far as they lie inside the image.
-/
structure SameHeader (first second : Buffer) (offset : Nat) : Prop where
  machineAndCount : first.AgreeOn second (offset + 4) 4
  sizeToMagic : first.AgreeOn second (offset + 20) 6
  entryPoint : first.AgreeOn second (offset + 40) 4
  entries
    : ∀ index < min ((first.u16? (offset + 6)).getD 0) 20,
        let entry := offset + 24 + (first.u16? (offset + 20)).getD 0 + 40 * index
        entry + 40 ≤ first.size → SameEntry first second entry

/-- Two images of one size whose headers, if they have any, are at the same place and the same. -/
structure ShareHeader (first second : Buffer) : Prop where
  size : first.size = second.size
  start : Signature.mz.matchesStart first
  otherStart : Signature.mz.matchesStart second
  located : locate? first = locate? second
  header : ∀ offset, locate? first = some offset → SameHeader first second offset

/-- What is told of two portable executables, their imports apart, is the same. -/
structure ToldAlike (first second : Buffer) : Prop where
  fileType : classify first = classify second
  sections
    : (Structure.extract first .windowsExecutable).sections
      = (Structure.extract second .windowsExecutable).sections
  architecture
    : (Structure.extract first .windowsExecutable).architecture
      = (Structure.extract second .windowsExecutable).architecture
  entryPoint
    : (Structure.extract first .windowsExecutable).entryPoint
      = (Structure.extract second .windowsExecutable).entryPoint

variable {first second : Buffer} {offset : Nat}

/-- The fields of a header are read from its bytes; witness: each of them lies inside one of the
three ranges.
-/
theorem Header.read_congr (size : first.size = second.size)
    (same : SameHeader first second offset)
    : Header.read first offset = Header.read second offset := by
  have machine : first.AgreeOn second (offset + 4) 2 :=
    same.machineAndCount.part (by omega) (by omega)
  have sectionCount : first.AgreeOn second (offset + 6) 2 :=
    same.machineAndCount.part (by omega) (by omega)
  have optionalHeaderSize : first.AgreeOn second (offset + 20) 2 :=
    same.sizeToMagic.part (by omega) (by omega)
  have characteristics : first.AgreeOn second (offset + 22) 2 :=
    same.sizeToMagic.part (by omega) (by omega)
  have magic : first.AgreeOn second (offset + 24) 2 :=
    same.sizeToMagic.part (by omega) (by omega)
  simp only [Header.read, Buffer.u16?, Buffer.u32?, Header.mk.injEq]
  exact ⟨Buffer.read?_congr size machine _, Buffer.read?_congr size sectionCount _,
    Buffer.read?_congr size optionalHeaderSize _, Buffer.read?_congr size characteristics _,
    Buffer.read?_congr size magic _, Buffer.read?_congr size same.entryPoint _⟩

-----------------------------------------------------------------------------------------
-- The section table
-----------------------------------------------------------------------------------------

/-- A part of two entries at which their buffers agree is the same. -/
theorem entryPart_congr {entry other : List UInt8} {start width : Nat}
    (size : first.size = second.size)
    (found : first.slice? offset sectionEntrySize = some entry)
    (otherFound : second.slice? offset sectionEntrySize = some other)
    (inside : start + width ≤ sectionEntrySize)
    (agree : first.AgreeOn second (offset + start) width)
    : (entry.drop start).take width = (other.drop start).take width := by
  have part := Buffer.slice?_within found inside
  rw [Buffer.slice?_congr size agree, Buffer.slice?_within otherFound inside] at part
  exact (Option.some.inj part).symm

/-- One entry is described by its name, its size and its flags only. -/
theorem sectionOfEntry_congr {entry other : List UInt8} (size : first.size = second.size)
    (found : first.slice? offset sectionEntrySize = some entry)
    (otherFound : second.slice? offset sectionEntrySize = some other)
    (same : SameEntry first second offset)
    : sectionOfEntry entry = sectionOfEntry other := by
  have name : (entry.drop 0).take 8 = (other.drop 0).take 8 :=
    entryPart_congr size found otherFound (by decide) same.name
  have sizeField := entryPart_congr size found otherFound (by decide) same.size
  have flags := entryPart_congr size found otherFound (by decide) same.flags
  rw [List.drop_zero, List.drop_zero] at name
  simp only [sectionOfEntry, ByteOrder.field, name, sizeField, flags]

/-- A table is read to the same sections where its entries have the same fields, by induction on
the entries that are left to read. Whether an entry is there depends on the size only.
-/
theorem sectionsFrom_congr (size : first.size = second.size) {count : Nat}
    (same
      : ∀ index < count,
          offset + 40 * index + 40 ≤ first.size
          → SameEntry first second (offset + 40 * index))
    : sectionsFrom first offset count = sectionsFrom second offset count := by
  induction count generalizing offset with
  | zero => rfl
  | succ count ih =>
      cases found : first.slice? offset sectionEntrySize with
      | none =>
          have otherFound : second.slice? offset sectionEntrySize = none := by
            rw [Buffer.slice?_eq_none_iff] at found ⊢
            rw [← size]
            exact found
          rw [sectionsFrom, sectionsFrom, found, otherFound]
      | some entry =>
          have inside := (Buffer.slice?_eq_some_iff.mp found).1
          obtain ⟨other, otherFound⟩ := Option.isSome_iff_exists.mp
            ((Buffer.slice?_isSome_iff second offset sectionEntrySize).mpr (size ▸ inside))
          have head := sectionOfEntry_congr size found otherFound
            (same 0 (Nat.succ_pos count) inside)
          have tail : sectionsFrom first (offset + sectionEntrySize) count
              = sectionsFrom second (offset + sectionEntrySize) count := by
            apply ih
            intro index below fits
            have place : offset + 40 * (index + 1) = offset + sectionEntrySize + 40 * index := by
              rw [sectionEntrySize]
              omega
            rw [← place] at fits ⊢
            exact same (index + 1) (Nat.succ_lt_succ below) fits
          rw [sectionsFrom, sectionsFrom, found, otherFound]
          dsimp only
          rw [head, tail]

/-- Headers with the same fields declare the same sections. -/
theorem sections_congr (size : first.size = second.size)
    (same : SameHeader first second offset)
    : sections first offset (Header.read first offset)
      = sections second offset (Header.read second offset) := by
  rw [← Header.read_congr size same]
  exact sectionsFrom_congr size same.entries

-----------------------------------------------------------------------------------------
-- What is told
-----------------------------------------------------------------------------------------

theorem ShareHeader.toldAlike (share : ShareHeader first second)
    : ToldAlike first second := by
  have classified := classify_of_matchesStart share.start
  have otherClassified := classify_of_matchesStart share.otherStart
  rw [classifySigned] at classified otherClassified
  cases located : locate? first with
  | none =>
      have otherLocated : locate? second = none := share.located ▸ located
      have none : Structure.extract first .windowsExecutable = .empty := by
        rw [Structure.extract, if_pos share.start, located]
      have otherNone : Structure.extract second .windowsExecutable = .empty := by
        rw [Structure.extract, if_pos share.otherStart, otherLocated]
      refine { fileType := ?_, sections := ?_, architecture := ?_, entryPoint := ?_ }
      · rw [classified, otherClassified, located, otherLocated]
      all_goals rw [none, otherNone]
  | some offset =>
      have otherLocated : locate? second = some offset := share.located ▸ located
      have extracted := Structure.extract_windowsExecutable share.start located
      have otherExtracted := Structure.extract_windowsExecutable share.otherStart otherLocated
      have same := share.header offset located
      have header := Header.read_congr share.size same
      refine { fileType := ?_, sections := ?_, architecture := ?_, entryPoint := ?_ }
      · rw [classified, otherClassified, located, otherLocated]
        exact congrArg FileType.windowsExecutable header
      all_goals rw [extracted, otherExtracted]
      · exact congrArg some (sections_congr share.size same)
      · exact congrArg (fun header => some header.architecture) header
      · exact congrArg
          (fun header => header.entryPoint.map (fun address => "0x" ++ Text.upperHex address))
          header

end Pe

namespace Elf

/-- Two images of one size that have the same class byte and the same type, machine and version. -/
structure ShareHeader (first second : Buffer) : Prop where
  size : first.size = second.size
  start : Signature.elf.matchesStart first
  otherStart : Signature.elf.matchesStart second
  classByte : first.AgreeOn second 4 1
  typeToVersion : first.AgreeOn second 16 8

/-- What is told of two ELF images, their imports apart, is the same. -/
structure ToldAlike (first second : Buffer) : Prop where
  fileType : classify first = classify second
  headers
    : (Structure.extract first .elf).headers = (Structure.extract second .elf).headers
  architecture
    : (Structure.extract first .elf).architecture
      = (Structure.extract second .elf).architecture

variable {first second : Buffer}

theorem ShareHeader.toldAlike (share : ShareHeader first second)
    : ToldAlike first second := by
  have className : className? first = className? second :=
    congrArg (Option.bind · (classNames.lookup ·))
      (Buffer.read?_congr share.size share.classByte .little)
  have kind : first.u16? 16 = second.u16? 16 :=
    Buffer.read?_congr share.size (share.typeToVersion.part (by omega) (by omega)) .little
  have machine : first.u16? 18 = second.u16? 18 :=
    Buffer.read?_congr share.size (share.typeToVersion.part (by omega) (by omega)) .little
  have version : first.u32? 20 = second.u32? 20 :=
    Buffer.read?_congr share.size (share.typeToVersion.part (by omega) (by omega)) .little
  have typeName : typeName first = typeName second := by
    rw [Elf.typeName, Elf.typeName, kind]
  refine { fileType := ?_, headers := ?_, architecture := ?_ }
  · rw [classify_of_matchesStart share.start, classify_of_matchesStart share.otherStart,
      classifySigned, classifySigned, typeName, className]
  · rw [Structure.extract_elf share.start, Structure.extract_elf share.otherStart]
    simp only [Structure.ofElf, headerFields, typeName, machine, version]
  · rw [Structure.extract_elf share.start, Structure.extract_elf share.otherStart]
    exact className

end Elf

/-- What is told of an executable image depends on its size and its header bytes only. -/
theorem toldAlike_of_shareHeader (first second : Buffer)
    : (Pe.ShareHeader first second → Pe.ToldAlike first second)
      ∧ (Elf.ShareHeader first second → Elf.ToldAlike first second) :=
  ⟨Pe.ShareHeader.toldAlike, Elf.ShareHeader.toldAlike⟩

/-- A portable executable of one section with a filler in all places that nothing is told from. Its
optional header has no size, so the section's name and size are the magic and the entry point too.
-/
def Pe.imageOfSection (filler : UInt8) : Buffer :=
  ([0x4D, 0x5A] ++ List.replicate 58 filler ++ [0x40, 0, 0, 0, 0x50, 0x45, 0, 0, 0x64, 0x86, 1, 0]
    ++ List.replicate 12 filler ++ [0, 0, 2, 0, 0x2E, 0x74, 0x65, 0x78, 0x74, 0, 0, 0]
    ++ List.replicate 8 filler ++ [0, 2, 0, 0] ++ List.replicate 16 filler
    ++ [0x20, 0, 0, 0x60]).toArray

/-- The start of an ELF image with a filler in all places that nothing is told from. -/
def Elf.imageStart (filler : UInt8) : Buffer :=
  ([0x7F, 0x45, 0x4C, 0x46, 2] ++ List.replicate 11 filler ++ [2, 0, 62, 0, 1, 0, 0, 0]
    ++ List.replicate 4 filler).toArray

/-- Images that differ in every byte of the filler are told alike. -/
theorem toldAlike_of_fillers
    : Pe.locate? (Pe.imageOfSection 0) = some 0x40
      ∧ Pe.ShareHeader (Pe.imageOfSection 0) (Pe.imageOfSection 0xFF)
      ∧ Pe.ToldAlike (Pe.imageOfSection 0) (Pe.imageOfSection 0xFF)
      ∧ Elf.ShareHeader (Elf.imageStart 0) (Elf.imageStart 0xFF)
      ∧ Elf.ToldAlike (Elf.imageStart 0) (Elf.imageStart 0xFF) := by
  have located : Pe.locate? (Pe.imageOfSection 0) = some 0x40 := by decide +kernel
  have header : Pe.SameHeader (Pe.imageOfSection 0) (Pe.imageOfSection 0xFF) 0x40 := by
    refine { machineAndCount := ?_, sizeToMagic := ?_, entryPoint := ?_, entries := ?_ }
    · decide +kernel
    · decide +kernel
    · decide +kernel
    · have one : min (((Pe.imageOfSection 0).u16? (0x40 + 6)).getD 0) 20 = 1 := by decide +kernel
      have table : ((Pe.imageOfSection 0).u16? (0x40 + 20)).getD 0 = 0 := by decide +kernel
      rw [one, table]
      intro index below
      obtain rfl : index = 0 := Nat.lt_one_iff.mp below
      intro entry _
      exact { name := by decide +kernel, size := by decide +kernel, flags := by decide +kernel }
  have shared : Pe.ShareHeader (Pe.imageOfSection 0) (Pe.imageOfSection 0xFF) := by
    refine { size := ?_, start := ?_, otherStart := ?_, located := ?_, header := ?_ }
    · decide +kernel
    · decide +kernel
    · decide +kernel
    · decide +kernel
    · intro offset found
      rw [located] at found
      cases found
      exact header
  have sharedElf : Elf.ShareHeader (Elf.imageStart 0) (Elf.imageStart 0xFF) := by
    refine { size := ?_, start := ?_, otherStart := ?_, classByte := ?_, typeToVersion := ?_ }
      <;> decide +kernel
  exact ⟨located, shared, (toldAlike_of_shareHeader _ _).1 shared, sharedElf,
    (toldAlike_of_shareHeader _ _).2 sharedElf⟩

end Bytewise

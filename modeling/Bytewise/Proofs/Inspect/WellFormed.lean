import Bytewise.Proofs.Buffer.LittleEndian
import Bytewise.Proofs.Buffer.Slices
import Bytewise.Proofs.Inspect.Recognition

/-! What every inspection has in common: which fields it has for which format, how long its lists
and names are, and where the file type and the structure tell the same.
-/

namespace Bytewise

-----------------------------------------------------------------------------------------
-- Sections
-----------------------------------------------------------------------------------------

/-- A section as an entry of forty bytes can describe it: its name takes up to eight bytes other
than zero, its size four bytes.
-/
structure Section.Fits (entry : Section) : Prop where
  name_length : entry.name.length ≤ 8
  name_codes : ∀ c ∈ entry.name.toList, 1 ≤ c.toNat ∧ c.toNat ≤ 255
  size_lt : entry.size < 2 ^ 32

namespace Pe

theorem length_sectionName_le (field : List UInt8)
    : (sectionName field).length ≤ field.length := by
  rw [← String.length_toList, sectionName, Text.ofLatin1, String.toList_ofList, List.length_map]
  exact (List.takeWhile_sublist _).length_le

theorem sectionName_codes (field : List UInt8)
    : ∀ c ∈ (sectionName field).toList, 1 ≤ c.toNat ∧ c.toNat ≤ 255 := by
  rw [sectionName, Text.ofLatin1, String.toList_ofList]
  intro c member
  obtain ⟨byte, kept, rfl⟩ := List.mem_map.mp member
  have nonzero : byte ≠ 0 := by
    have tested := List.all_eq_true.mp (List.all_takeWhile (p := (· != 0))) byte kept
    simpa using tested
  have code : (Char.ofUInt8 byte).toNat = byte.toNat := rfl
  have lt := byte.toNat_lt
  have ne : byte.toNat ≠ 0 := fun zero => nonzero (UInt8.toNat_inj.mp zero)
  omega

theorem sectionOfEntry_fits (entry : List UInt8) : (sectionOfEntry entry).Fits := by
  refine { name_length := ?_, name_codes := sectionName_codes _, size_lt := ?_ }
  · have le := length_sectionName_le (entry.take 8)
    rw [List.length_take] at le
    simp only [sectionOfEntry]
    omega
  · have lt := littleValue_lt ((entry.drop 16).take 4)
    have narrow : ((entry.drop 16).take 4).length ≤ 4 := List.length_take_le ..
    calc (sectionOfEntry entry).size
      _ < 256 ^ ((entry.drop 16).take 4).length := lt
      _ ≤ 256 ^ 4 := Nat.pow_le_pow_right (by decide) narrow

/-- A table is read to at most as many sections as it has entries, by induction on their count. -/
theorem sectionsFrom_fits (buffer : Buffer) (offset count : Nat)
    : (sectionsFrom buffer offset count).length ≤ count
      ∧ ∀ entry ∈ sectionsFrom buffer offset count, entry.Fits := by
  induction count generalizing offset with
  | zero => simp [sectionsFrom]
  | succ count ih =>
      rw [sectionsFrom]
      split
      · next record _ =>
          obtain ⟨length, fits⟩ := ih (offset + sectionEntrySize)
          refine ⟨Nat.succ_le_succ length, ?_⟩
          intro entry member
          rcases List.mem_cons.mp member with rfl | later
          · exact sectionOfEntry_fits record
          · exact fits entry later
      · simp

end Pe

-----------------------------------------------------------------------------------------
-- File types
-----------------------------------------------------------------------------------------

/-- Whether a file type has no more than a format and a description, of a format whose headers are
not looked at.
-/
def FileType.isPlain (fileType : FileType) : Bool :=
  fileType.subtype.isNone && fileType.architecture.isNone
    && !fileType.format.isImage && fileType.format != .machO

theorem firstMarked_isPlain {markers : List Marker} {fallback : FileType}
    (plain : ∀ marker ∈ markers, marker.fileType.isPlain) (last : fallback.isPlain)
    (buffer : Buffer)
    : (firstMarked markers fallback buffer).isPlain := by
  rcases firstMarked_cases markers fallback buffer with same | ⟨marker, member, same⟩
  · rw [same]
    exact last
  · rw [same]
    exact plain marker member

/-- What an inspection can tell: a portable executable with a header, an ELF image, a Mach-O image
of some address width, or a plain file type; the last two without a structure.
-/
inductive Inspected (buffer : Buffer) : FileType → Structure → Prop
  | executable {offset} (located : Pe.locate? buffer = some offset)
    : Inspected buffer (.windowsExecutable (Pe.Header.read buffer offset))
        (.ofPe buffer offset)
  | elf : Inspected buffer (.elf (Elf.typeName buffer) (Elf.className? buffer)) (.ofElf buffer)
  | machO (width : String) : Inspected buffer (.machO width) .empty
  | plain {fileType} (plain : fileType.isPlain) : Inspected buffer fileType .empty

theorem extract_of_not_isImage {buffer : Buffer} {format : Format}
    (notImage : format.isImage = false)
    : Structure.extract buffer format = .empty := by
  cases format with
  | windowsExecutable | elf => cases notImage
  | _ => rfl

/-- Inspection goes the way of one of the signatures, or that of text or binary data. -/
theorem inspected_inspect (buffer : Buffer)
    : Inspected buffer (inspect buffer).1 (inspect buffer).2 := by
  have ofPlain (plain : (classify buffer).isPlain)
      : Inspected buffer (inspect buffer).1 (inspect buffer).2 := by
    have notImage : (classify buffer).format.isImage = false := by
      simp only [FileType.isPlain, Bool.and_eq_true, Bool.not_eq_true'] at plain
      exact plain.1.2
    simp only [inspect, Structure.extractTyped, extract_of_not_isImage notImage]
    exact .plain plain
  cases matched : Signature.match? buffer with
  | none =>
      apply ofPlain
      simp only [classify, matched]
      split
      · exact firstMarked_isPlain (by decide) rfl buffer
      · rfl
  | some signature =>
      have start := Signature.match?_eq_some_iff.mp matched
      have classified := classify_of_matchesStart start
      cases signature with
      | mz =>
          cases located : Pe.locate? buffer with
          | none =>
              apply ofPlain
              rw [classified, classifySigned, located]
              rfl
          | some offset =>
              rw [classifySigned, located] at classified
              simp only [inspect, classified, Structure.extractTyped, FileType.windowsExecutable,
                Structure.extract_windowsExecutable start located]
              exact .executable located
      | elf =>
          simp only [inspect, classified, classifySigned, Structure.extractTyped, FileType.elf,
            Structure.extract_elf start]
          exact .elf
      | machO32 =>
          rw [inspect, classified]
          exact .machO "32-bit"
      | machO64 =>
          rw [inspect, classified]
          exact .machO "64-bit"
      | zip =>
          apply ofPlain
          rw [classified]
          exact firstMarked_isPlain (by decide) rfl buffer
      | pdf | jpeg | png | gif | javaClass =>
          apply ofPlain
          rw [classified]
          rfl

-----------------------------------------------------------------------------------------
-- Imports
-----------------------------------------------------------------------------------------

/-- A list that is kept only when it has entries is never there without one. -/
theorem filter_not_isEmpty_ne_nil {α : Type} (list : Option (List α))
    : list.filter (fun entries => !entries.isEmpty) ≠ some [] := by
  intro empty
  obtain ⟨_, kept⟩ := Option.filter_eq_some_iff.mp empty
  cases kept

-----------------------------------------------------------------------------------------
-- The whole inspection
-----------------------------------------------------------------------------------------

/-- The class byte tells an address width when it is one or two. -/
theorem Elf.className?_isSome_iff (buffer : Buffer)
    : (className? buffer).isSome ↔ buffer.u8? 4 = some 1 ∨ buffer.u8? 4 = some 2 := by
  rw [className?]
  cases buffer.u8? 4 with
  | none => simp
  | some code =>
      simp only [Option.bind_some, classNames, Option.some.injEq]
      by_cases one : code = 1
      · simp [one]
      · by_cases two : code = 2
        · simp [two]
        · simp [List.lookup_cons, one, two, beq_false_of_ne one, beq_false_of_ne two]

/-- A file type and a structure that fit together, as an inspection of the buffer. -/
structure WellFormed (buffer : Buffer) (fileType : FileType) (image : Structure) : Prop where
  subtype
    : fileType.subtype.isSome
      ↔ fileType.format = .windowsExecutable ∨ fileType.format = .elf
  architecture
    : fileType.architecture.isSome
      ↔ fileType.format = .windowsExecutable
        ∨ fileType.format = .machO
        ∨ fileType.format = .elf ∧ (buffer.u8? 4 = some 1 ∨ buffer.u8? 4 = some 2)
  sections : image.sections.isSome ↔ fileType.format = .windowsExecutable
  sections_fit
    : ∀ entries,
        image.sections = some entries
        → entries.length ≤ 20 ∧ ∀ entry ∈ entries, entry.Fits
  headers : image.headers.isSome ↔ fileType.format = .elf
  headers_agree
    : ∀ fields,
        image.headers = some fields
        → fields.map HeaderField.name = ["Type", "Machine", "Version"]
          ∧ fields.head?.map HeaderField.value = fileType.subtype
          ∧ image.architecture = fileType.architecture
  entryPoint
    : image.entryPoint.isSome
      ↔ fileType.format = .windowsExecutable
        ∧ ∃ offset, Pe.locate? buffer = some offset ∧ offset + 44 ≤ buffer.size
  imports_ne_nil : image.imports ≠ some []
  imports
    : image.imports.isSome → fileType.format = .windowsExecutable ∨ fileType.format = .elf

theorem WellFormed.of_executable {buffer : Buffer} {offset : Nat}
    (located : Pe.locate? buffer = some offset)
    : WellFormed buffer (.windowsExecutable (Pe.Header.read buffer offset))
        (.ofPe buffer offset) where
  subtype := by simp [FileType.windowsExecutable]
  architecture := by simp [FileType.windowsExecutable]
  sections := by simp [FileType.windowsExecutable, Structure.ofPe]
  sections_fit := by
    rintro entries ⟨⟩
    obtain ⟨length, fits⟩ := Pe.sectionsFrom_fits buffer
      ((Pe.Header.read buffer offset).sectionTable offset)
      (min ((Pe.Header.read buffer offset).sectionCount.getD 0) Pe.shownSections)
    exact ⟨Nat.le_trans length (Nat.min_le_right ..), fits⟩
  headers := by simp [FileType.windowsExecutable, Structure.ofPe]
  headers_agree := by
    intro fields present
    cases present
  entryPoint := by
    have read : ((Structure.ofPe buffer offset).entryPoint).isSome
        ↔ offset + 44 ≤ buffer.size := by
      simp only [Structure.ofPe, Option.isSome_map, Pe.Header.read, Buffer.u32?, Buffer.read?]
      exact Buffer.slice?_isSome_iff buffer (offset + 40) 4
    simp [read, FileType.windowsExecutable, located]
  imports_ne_nil := filter_not_isEmpty_ne_nil _
  imports := fun _ => Or.inl rfl

theorem WellFormed.of_elf (buffer : Buffer)
    : WellFormed buffer (.elf (Elf.typeName buffer) (Elf.className? buffer))
        (.ofElf buffer) where
  subtype := by simp [FileType.elf]
  architecture := by simp [FileType.elf, Elf.className?_isSome_iff]
  sections := by simp [FileType.elf, Structure.ofElf]
  sections_fit := by
    intro entries present
    cases present
  headers := by simp [FileType.elf, Structure.ofElf]
  headers_agree := by
    rintro fields ⟨⟩
    exact ⟨rfl, rfl, rfl⟩
  entryPoint := by simp [FileType.elf, Structure.ofElf]
  imports_ne_nil := filter_not_isEmpty_ne_nil _
  imports := fun _ => Or.inr rfl

/-- Without a structure, a file type fits that has no subtype, and an address width exactly when it
is that of a Mach-O image.
-/
theorem WellFormed.of_empty {buffer : Buffer} {fileType : FileType}
    (notImage : fileType.format.isImage = false) (unmarked : fileType.subtype = none)
    (width : fileType.architecture.isSome ↔ fileType.format = .machO)
    : WellFormed buffer fileType .empty := by
  have notExecutable : fileType.format ≠ .windowsExecutable := by
    intro same
    rw [same] at notImage
    cases notImage
  have notElf : fileType.format ≠ .elf := by
    intro same
    rw [same] at notImage
    cases notImage
  constructor <;> simp [Structure.empty, unmarked, width, notExecutable, notElf]

theorem Inspected.wellFormed {buffer : Buffer} {fileType : FileType} {image : Structure}
    (told : Inspected buffer fileType image)
    : WellFormed buffer fileType image := by
  cases told with
  | executable located => exact .of_executable located
  | elf => exact .of_elf buffer
  | machO width => exact .of_empty rfl rfl (by simp [FileType.machO])
  | plain plain =>
      simp only [FileType.isPlain, Bool.and_eq_true, Bool.not_eq_true', Option.isNone_iff_eq_none,
        bne_iff_ne] at plain
      obtain ⟨⟨⟨unmarked, narrow⟩, notImage⟩, notMachO⟩ := plain
      exact .of_empty notImage unmarked (by simp [narrow, notMachO])

/-- Every inspection is well formed; witness: each of the four things that it can tell is. -/
theorem inspect_wellFormed (buffer : Buffer)
    : WellFormed buffer (inspect buffer).1 (inspect buffer).2 :=
  (inspected_inspect buffer).wellFormed

end Bytewise

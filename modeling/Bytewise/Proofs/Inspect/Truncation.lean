import Mathlib.Data.List.Forall2
import Bytewise.Proofs.Inspect.Recognition

/-! What is told of an image whose end is cut off. A field that is cut off becomes unknown or
absent; the others, and the sections that remain, are those of the whole image.
-/

namespace Bytewise

/-- A read from the front of a buffer is absent there or gives what the whole buffer gives. -/
theorem Buffer.read?_append_cases (buffer suffix : Buffer) (order : ByteOrder)
    (width offset : Nat)
    : buffer.read? order width offset = none
      ∨ buffer.read? order width offset = (buffer ++ suffix).read? order width offset := by
  cases found : buffer.read? order width offset with
  | none => exact Or.inl rfl
  | some value => exact Or.inr (Buffer.read?_append found suffix).symm

/-- What is told of a field in the front of a buffer is what is told of an absent one, or what is
told of the field in the whole buffer.
-/
theorem Buffer.told_append {α : Type} (told : Option Nat → α) (buffer suffix : Buffer)
    (order : ByteOrder) (width offset : Nat)
    : told (buffer.read? order width offset) = told none
      ∨ told (buffer.read? order width offset)
        = told ((buffer ++ suffix).read? order width offset) := by
  rcases Buffer.read?_append_cases buffer suffix order width offset with absent | same
  · exact Or.inl (congrArg told absent)
  · exact Or.inr (congrArg told same)

namespace Pe

/-- What is told of a portable executable is told of a longer one too, or is left open. -/
structure TellsLess (image longer : Buffer) : Prop where
  format : (classify image).format = .windowsExecutable
  longerFormat : (classify longer).format = .windowsExecutable
  architecture
    : (classify image).architecture = some "Unknown"
      ∨ (classify image).architecture = (classify longer).architecture
  subtype
    : (classify image).subtype = some "Unknown"
      ∨ (classify image).subtype = (classify longer).subtype
  sections
    : ∃ fewer more,
        (Structure.extract image .windowsExecutable).sections = some fewer
        ∧ (Structure.extract longer .windowsExecutable).sections = some more
        ∧ fewer <+: more
  entryPoint
    : (Structure.extract image .windowsExecutable).entryPoint = none
      ∨ (Structure.extract image .windowsExecutable).entryPoint
        = (Structure.extract longer .windowsExecutable).entryPoint

/-- A header that is located in the front of a buffer is located in the whole buffer. -/
theorem locate?_append {buffer : Buffer} {offset : Nat} (located : locate? buffer = some offset)
    (suffix : Buffer)
    : locate? (buffer ++ suffix) = some offset := by
  obtain ⟨pointer, found⟩ := Option.filter_eq_some_iff.mp located
  refine Option.filter_eq_some_iff.mpr ⟨Buffer.read?_append pointer suffix, ?_⟩
  exact decide_eq_true (Buffer.slice?_append (of_decide_eq_true found) suffix)

theorem machineName_append (buffer suffix : Buffer) (offset : Nat)
    : (Header.read buffer offset).machineName = "Unknown"
      ∨ (Header.read buffer offset).machineName
        = (Header.read (buffer ++ suffix) offset).machineName :=
  Buffer.told_append (fun machine => Pe.machineName (machine.map Int.ofNat))
    buffer suffix .little 2 (offset + 4)

theorem subtype_append (buffer suffix : Buffer) (offset : Nat)
    : (Header.read buffer offset).subtype = "Unknown"
      ∨ (Header.read buffer offset).subtype
        = (Header.read (buffer ++ suffix) offset).subtype :=
  Buffer.told_append (fun characteristics => Pe.subtype (characteristics.map Int.ofNat))
    buffer suffix .little 2 (offset + 22)

theorem sectionsFrom_eq_nil {buffer : Buffer} {offset : Nat}
    (past : buffer.size < offset + sectionEntrySize) (count : Nat)
    : sectionsFrom buffer offset count = [] := by
  cases count with
  | zero => rfl
  | succ count => rw [sectionsFrom, Buffer.slice?_eq_none_iff.mpr past]

/-- The sections of a table in the front of a buffer are the first ones of the table in the whole
buffer, by induction on the entries that are left to read.
-/
theorem sectionsFrom_append (buffer suffix : Buffer) (offset count : Nat)
    : sectionsFrom buffer offset count <+: sectionsFrom (buffer ++ suffix) offset count := by
  induction count generalizing offset with
  | zero => exact List.prefix_rfl
  | succ count ih =>
      cases found : buffer.slice? offset sectionEntrySize with
      | none =>
          rw [sectionsFrom, found]
          exact List.nil_prefix
      | some entry =>
          rw [sectionsFrom, sectionsFrom, found, Buffer.slice?_append found suffix]
          exact (List.prefix_cons_inj _).mpr (ih _)

/-- The sections told for the front of an image are the first ones of the whole image. Witness:
with the count and the size of the optional header in place it is the same table.
-/
theorem sections_append (buffer suffix : Buffer) (offset : Nat)
    : sections buffer offset (Header.read buffer offset)
      <+: sections (buffer ++ suffix) offset (Header.read (buffer ++ suffix) offset) := by
  rcases Buffer.read?_append_cases buffer suffix .little 2 (offset + 6) with absent | sameCount
  · have none : sections buffer offset (Header.read buffer offset) = [] := by
      simp [sections, Header.read, Buffer.u16?, absent, sectionsAt, sectionsFrom]
    rw [none]
    exact List.nil_prefix
  · rcases Buffer.read?_append_cases buffer suffix .little 2 (offset + 20) with absent | sameSize
    · -- A size that is cut off counts as zero, so the table would begin right behind the place of
      -- the size, where there are even fewer bytes left.
      have past := Buffer.read?_eq_none_iff.mp absent
      have none : sections buffer offset (Header.read buffer offset) = [] := by
        apply sectionsFrom_eq_nil
        rw [Header.sectionTable, sectionEntrySize]
        omega
      rw [none]
      exact List.nil_prefix
    · have table : (Header.read buffer offset).sectionTable offset
          = (Header.read (buffer ++ suffix) offset).sectionTable offset := by
        simp only [Header.sectionTable, Header.read, Buffer.u16?, sameSize]
      have count : (Header.read buffer offset).sectionCount
          = (Header.read (buffer ++ suffix) offset).sectionCount := sameCount
      rw [sections, sections, table, count]
      exact sectionsFrom_append ..

theorem tellsLess_append {image : Buffer} {offset : Nat}
    (start : Signature.mz.matchesStart image) (located : locate? image = some offset)
    (suffix : Buffer)
    : TellsLess image (image ++ suffix) := by
  have longerStart : Signature.mz.matchesStart (image ++ suffix) :=
    Buffer.startsWith_append start suffix
  have longerLocated := locate?_append located suffix
  have classified : classify image = .windowsExecutable (Header.read image offset) := by
    rw [classify_of_matchesStart start, classifySigned, located]
  have longerClassified : classify (image ++ suffix)
      = .windowsExecutable (Header.read (image ++ suffix) offset) := by
    rw [classify_of_matchesStart longerStart, classifySigned, longerLocated]
  have extracted := Structure.extract_windowsExecutable start located
  have longerExtracted := Structure.extract_windowsExecutable longerStart longerLocated
  refine {
    format := ?_
    longerFormat := ?_
    architecture := ?_
    subtype := ?_
    sections := ?_
    entryPoint := ?_
  }
  · rw [classified]
    rfl
  · rw [longerClassified]
    rfl
  · rw [classified, longerClassified]
    exact (machineName_append image suffix offset).imp (congrArg some) (congrArg some)
  · rw [classified, longerClassified]
    exact (subtype_append image suffix offset).imp (congrArg some) (congrArg some)
  · rw [extracted, longerExtracted]
    exact ⟨_, _, rfl, rfl, sections_append image suffix offset⟩
  · rw [extracted, longerExtracted]
    exact Buffer.told_append (Option.map (fun address => "0x" ++ Text.upperHex address))
      image suffix .little 4 (offset + 40)

end Pe

namespace Elf

/-- A header field tells less than another when it has the same name, and the same value or an
unknown one.
-/
def FieldTellsLess (field other : HeaderField) : Prop :=
  field.name = other.name ∧ (field.value = "Unknown" ∨ field.value = other.value)

/-- What is told of an ELF image is told of a longer one too, or is left open. -/
structure TellsLess (image longer : Buffer) : Prop where
  architecture
    : (classify image).architecture = none
      ∨ (classify image).architecture = (classify longer).architecture
  structureArchitecture
    : (Structure.extract image .elf).architecture = none
      ∨ (Structure.extract image .elf).architecture
        = (Structure.extract longer .elf).architecture
  subtype
    : (classify image).subtype = some "Unknown"
      ∨ (classify image).subtype = (classify longer).subtype
  headers
    : ∃ fields others,
        (Structure.extract image .elf).headers = some fields
        ∧ (Structure.extract longer .elf).headers = some others
        ∧ fields.length = 3
        ∧ List.Forall₂ FieldTellsLess fields others

theorem className?_append (buffer suffix : Buffer)
    : className? buffer = none ∨ className? buffer = className? (buffer ++ suffix) :=
  Buffer.told_append (fun code => code.bind (fun code => classNames.lookup code))
    buffer suffix .little 1 4

theorem typeName_append (buffer suffix : Buffer)
    : typeName buffer = "Unknown" ∨ typeName buffer = typeName (buffer ++ suffix) :=
  Buffer.told_append
    (fun code => (code.bind (fun code => typeNames.lookup code)).getD "Unknown")
    buffer suffix .little 2 16

/-- Each header field of the front of an image is unknown there, or that of the whole image. -/
theorem headerFields_append (buffer suffix : Buffer)
    : List.Forall₂ FieldTellsLess (headerFields buffer) (headerFields (buffer ++ suffix)) := by
  have machine := Buffer.told_append (fun code => machineName (code.map Int.ofNat))
    buffer suffix .little 2 18
  have version := Buffer.told_append (fun code => (code.map toString).getD "Unknown")
    buffer suffix .little 4 20
  exact .cons ⟨rfl, typeName_append buffer suffix⟩
    (.cons ⟨rfl, machine⟩ (.cons ⟨rfl, version⟩ .nil))

theorem tellsLess_append {image : Buffer} (start : Signature.elf.matchesStart image)
    (suffix : Buffer)
    : TellsLess image (image ++ suffix) := by
  have longerStart : Signature.elf.matchesStart (image ++ suffix) :=
    Buffer.startsWith_append start suffix
  have classified := classify_of_matchesStart start
  have longerClassified := classify_of_matchesStart longerStart
  have extracted := Structure.extract_elf start
  have longerExtracted := Structure.extract_elf longerStart
  refine {
    architecture := ?_
    structureArchitecture := ?_
    subtype := ?_
    headers := ?_
  }
  · rw [classified, longerClassified]
    exact className?_append image suffix
  · rw [extracted, longerExtracted]
    exact className?_append image suffix
  · rw [classified, longerClassified]
    exact (typeName_append image suffix).imp (congrArg some) (congrArg some)
  · rw [extracted, longerExtracted]
    exact ⟨_, _, rfl, rfl, rfl, headerFields_append image suffix⟩

end Elf

/-- Cutting off the end of an image loses what it tells and changes nothing: the header of a
portable executable stays in its place, and every image tells less than the whole one.
-/
theorem truncation_tellsLess (image suffix : Buffer)
    : (Signature.mz.matchesStart image
        → ∀ offset,
            Pe.locate? image = some offset
            → Pe.locate? (image ++ suffix) = some offset
              ∧ Pe.TellsLess image (image ++ suffix))
      ∧ (Signature.elf.matchesStart image → Elf.TellsLess image (image ++ suffix)) := by
  constructor
  · intro start offset located
    exact ⟨Pe.locate?_append located suffix, Pe.tellsLess_append start located suffix⟩
  · intro start
    exact Elf.tellsLess_append start suffix

/-- A portable executable cut off behind its header's signature, and an ELF image cut off behind
its own, tell less than with the machine or the address width after it.
-/
theorem truncation_behind_signatures
    : let executable : Buffer :=
        #[0x4D, 0x5A] ++ Array.replicate 58 0 ++ #[0x40, 0, 0, 0, 0x50, 0x45, 0, 0]
      let elf : Buffer := #[0x7F, 0x45, 0x4C, 0x46]
      Signature.mz.matchesStart executable
      ∧ Pe.locate? executable = some 0x40
      ∧ Pe.TellsLess executable (executable ++ #[0x64, 0x86])
      ∧ Signature.elf.matchesStart elf
      ∧ Elf.TellsLess elf (elf ++ #[2]) := by
  intro executable elf
  have start : Signature.mz.matchesStart executable := by decide
  have located : Pe.locate? executable = some 0x40 := by decide
  have elfStart : Signature.elf.matchesStart elf := by decide
  exact ⟨start, located, ((truncation_tellsLess executable _).1 start _ located).2, elfStart,
    (truncation_tellsLess elf _).2 elfStart⟩

end Bytewise

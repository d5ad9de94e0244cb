import Bytewise.Inspect
import Bytewise.Proofs.Dispatch

/-! The reading of a structure accepts the buffers that classification calls images, under the
format it calls them by, and no others.
-/

namespace Bytewise.Structure

theorem eq_empty_of_isEmpty {image : Structure} (none : image.isEmpty) : image = empty := by
  rcases image with ⟨sections, headers, architecture, entryPoint, imports⟩
  simp only [isEmpty, Bool.and_eq_true, Option.isNone_iff_eq_none] at none
  obtain ⟨⟨⟨⟨rfl, rfl⟩, rfl⟩, rfl⟩, rfl⟩ := none
  rfl

/-- A portable executable has a list of sections, however much of it is cut off. -/
theorem ofPe_isEmpty (buffer : Buffer) (offset : Nat)
    : (ofPe buffer offset).isEmpty = false := by
  simp [isEmpty, ofPe]

/-- An ELF image has header fields, however much of it is cut off. -/
theorem ofElf_isEmpty (buffer : Buffer) : (ofElf buffer).isEmpty = false := by
  simp [isEmpty, ofElf]

theorem extract_windowsExecutable {buffer : Buffer} {offset : Nat}
    (start : Signature.mz.matchesStart buffer) (located : Pe.locate? buffer = some offset)
    : extract buffer .windowsExecutable = ofPe buffer offset := by
  rw [extract, if_pos start, located]

theorem extract_elf {buffer : Buffer} (start : Signature.elf.matchesStart buffer)
    : extract buffer .elf = ofElf buffer := by
  rw [extract, if_pos start]

/-- There is a structure of a format exactly when that is the image format that the buffer is
classified by. Witness: both tests of an image are those of its classification.
-/
theorem extract_isEmpty_eq_false_iff (buffer : Buffer) (format : Format)
    : (extract buffer format).isEmpty = false
      ↔ format = (classify buffer).format
        ∧ (format = .windowsExecutable ∨ format = .elf) := by
  cases format with
  | windowsExecutable =>
      simp only [true_or, and_true]
      rw [eq_comm (b := (classify buffer).format), classify_format_windowsExecutable_iff]
      constructor
      · intro present
        rw [extract] at present
        split at present
        · next start =>
            split at present
            · next offset located => exact ⟨start, offset, located⟩
            · cases present
        · cases present
      · rintro ⟨start, offset, located⟩
        rw [extract_windowsExecutable start located]
        exact ofPe_isEmpty buffer offset
  | elf =>
      simp only [or_true, and_true]
      rw [eq_comm (b := (classify buffer).format), classify_format_elf_iff]
      constructor
      · intro present
        rw [extract] at present
        split at present
        · next start => exact start
        · cases present
      · intro start
        rw [extract_elf start]
        exact ofElf_isEmpty buffer
  | _ => simp [extract, empty, isEmpty]

/-- Whether a tag is that of the format that a buffer is classified by, and this is an image. -/
def NamesImage (buffer : Buffer) (tag : String) : Prop :=
  tag = (classify buffer).format.tag
  ∧ ((classify buffer).format = .windowsExecutable ∨ (classify buffer).format = .elf)

theorem extractTagged_tag (buffer : Buffer) (format : Format)
    : extractTagged buffer format.tag = extract buffer format := by
  rw [extractTagged, Format.ofTag?_tag]

/-- Formats of one tag are the same; witness: a format is found under its tag. -/
theorem format_eq_of_tag_eq {first second : Format} (same : first.tag = second.tag)
    : first = second := by
  have found := Format.ofTag?_tag first
  rw [same, Format.ofTag?_tag, Option.some.injEq] at found
  exact found.symm

/-- There is a structure under a tag exactly when the tag names the image. Witness: a tag that no
format has names none, and any other stands for its format.
-/
theorem extractTagged_isEmpty_eq_false_iff (buffer : Buffer) (tag : String)
    : (extractTagged buffer tag).isEmpty = false ↔ NamesImage buffer tag := by
  cases found : Format.ofTag? tag with
  | none =>
      have unknown : tag ≠ (classify buffer).format.tag := by
        intro same
        rw [same, Format.ofTag?_tag] at found
        cases found
      simp [extractTagged, found, NamesImage, unknown, empty, isEmpty]
  | some format =>
      have named := Format.tag_of_ofTag? found
      subst named
      rw [extractTagged_tag, extract_isEmpty_eq_false_iff, NamesImage]
      constructor
      · rintro ⟨rfl, image⟩
        exact ⟨rfl, image⟩
      · rintro ⟨sameTag, image⟩
        have same := format_eq_of_tag_eq sameTag
        exact ⟨same, same ▸ image⟩

theorem extract_of_parse {tag : String} {format : Format}
    (parsed : Format.parse tag = .ok format) (buffer : Buffer)
    : extract buffer format = extractTagged buffer tag := by
  rw [Format.parse] at parsed
  split at parsed
  · next known found =>
      cases parsed
      rw [extractTagged, found]
  · cases parsed

/-- Under the tag that names the image there is a structure, and under every other tag it is empty.
A format, alone or in a file type, stands for its tag.
-/
theorem extractTagged_accepts_images (buffer : Buffer) (tag : String)
    : ((extractTagged buffer tag).isEmpty = false ↔ NamesImage buffer tag)
      ∧ (¬ NamesImage buffer tag → extractTagged buffer tag = empty)
      ∧ ∀ format,
          Format.parse tag = .ok format
          → extract buffer format = extractTagged buffer tag
            ∧ ∀ fileType : FileType,
                fileType.format = format
                → extractTyped buffer fileType = extractTagged buffer tag := by
  refine ⟨extractTagged_isEmpty_eq_false_iff buffer tag, ?_, ?_⟩
  · intro refused
    apply eq_empty_of_isEmpty
    rw [← extractTagged_isEmpty_eq_false_iff, Bool.not_eq_false] at refused
    exact refused
  · intro format parsed
    refine ⟨extract_of_parse parsed buffer, ?_⟩
    rintro fileType rfl
    exact extract_of_parse parsed buffer

/-- The signature of ELF alone has a structure under its own tag, and none under the tag of a
portable executable.
-/
theorem extractTagged_elf_signature
    : let buffer : Buffer := #[0x7F, 0x45, 0x4C, 0x46]
      (extractTagged buffer "ELF").isEmpty = false
      ∧ extractTagged buffer "Windows Executable" = empty
      ∧ extract buffer .elf = extractTagged buffer "ELF" := by
  intro buffer
  have named : NamesImage buffer "ELF" := by
    refine ⟨?_, Or.inr ?_⟩ <;> decide
  have refused : ¬ NamesImage buffer "Windows Executable" := by
    rintro ⟨same, _⟩
    revert same
    decide
  obtain ⟨accepted, rejected, typed⟩ := extractTagged_accepts_images buffer "ELF"
  refine ⟨accepted.mpr named, ?_, (typed .elf (by rfl)).1⟩
  exact (extractTagged_accepts_images buffer "Windows Executable").2.1 refused

end Bytewise.Structure

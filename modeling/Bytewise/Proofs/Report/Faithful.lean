import Bytewise.Report.Encode
import Bytewise.Proofs.Inspect.Recognition
import Bytewise.Proofs.Json.Sameness

/-! The documents of reports lose nothing: what is reported can be told from its document, whatever
order the members of objects are in. In particular, a list that is absent is told from an empty one.
-/

namespace Bytewise

open Json

attribute [ext] FileType Section HeaderField Structure ByteDifference FileReport Comparison

-----------------------------------------------------------------------------------------
-- Parts of reports
-----------------------------------------------------------------------------------------

theorem Format.faithful_tag : Faithful (fun format : Format => .string format.tag) :=
  faithful_string.comp fun _ _ => Structure.format_eq_of_tag_eq

theorem FileType.toJson_faithful : Faithful FileType.toJson := by
  intro first second same
  apply FileType.ext
  · exact Format.faithful_tag.field same "type" format (fun _ => ⟨_, rfl, rfl⟩)
  · exact faithful_string.field same "description" description (fun _ => ⟨_, rfl, rfl⟩)
  · exact faithful_string.optional same "subtype" subtype
      (fun _ => ⟨_, rfl, by simp [List.lookup_cons, List.lookup_append]⟩)
  · exact faithful_string.optional same "architecture" architecture
      (fun _ => ⟨_, rfl, by simp [List.lookup_cons, List.lookup_append]⟩)

theorem Section.toJson_faithful : Faithful Section.toJson := by
  intro first second same
  apply Section.ext
  · exact faithful_string.field same "name" name (fun _ => ⟨_, rfl, rfl⟩)
  · exact faithful_natural.field same "size" size (fun _ => ⟨_, rfl, rfl⟩)
  · exact faithful_string.field same "description" description (fun _ => ⟨_, rfl, rfl⟩)

theorem HeaderField.toJson_faithful : Faithful HeaderField.toJson := by
  intro first second same
  apply HeaderField.ext
  · exact faithful_string.field same "name" name (fun _ => ⟨_, rfl, rfl⟩)
  · exact faithful_string.field same "value" value (fun _ => ⟨_, rfl, rfl⟩)

/-- The members of a structure are told apart by their names, whichever of them there are. -/
theorem Structure.toJson_faithful : Faithful Structure.toJson := by
  intro first second same
  apply Structure.ext
  · exact Section.toJson_faithful.list.optional same "sections" sections
      (fun _ => ⟨_, rfl, by simp [List.lookup_append]⟩)
  · exact HeaderField.toJson_faithful.list.optional same "headers" headers
      (fun _ => ⟨_, rfl, by simp [List.lookup_append]⟩)
  · exact faithful_string.optional same "architecture" architecture
      (fun _ => ⟨_, rfl, by simp [List.lookup_append]⟩)
  · exact faithful_string.optional same "entry_point" entryPoint
      (fun _ => ⟨_, rfl, by simp [List.lookup_append]⟩)
  · exact faithful_string.list.optional same "imports" imports
      (fun _ => ⟨_, rfl, by simp [List.lookup_append]⟩)

/-- A byte that is absent is null, which no byte is. -/
theorem faithful_byte : Faithful (orNull (fun byte : UInt8 => natural byte.toNat)) :=
  (faithful_natural.comp fun _ _ => UInt8.toNat_inj.mp).orNull (by simp [natural])

theorem faithful_char : Faithful (orNull (fun c : Char => .string c.toString)) :=
  (faithful_string.comp fun _ _ => String.singleton_inj.mp).orNull (by simp)

theorem ByteDifference.toJson_faithful : Faithful ByteDifference.toJson := by
  intro first second same
  apply ByteDifference.ext
  · exact faithful_natural.field same "position" position (fun _ => ⟨_, rfl, rfl⟩)
  · exact faithful_byte.field same "byte1" byte1 (fun _ => ⟨_, rfl, rfl⟩)
  · exact faithful_byte.field same "byte2" byte2 (fun _ => ⟨_, rfl, rfl⟩)
  · exact faithful_char.field same "char1" char1 (fun _ => ⟨_, rfl, rfl⟩)
  · exact faithful_char.field same "char2" char2 (fun _ => ⟨_, rfl, rfl⟩)

-----------------------------------------------------------------------------------------
-- Comparisons
-----------------------------------------------------------------------------------------

theorem Comparison.toJson_faithful : Faithful Comparison.toJson := by
  intro first second same
  apply Comparison.ext
  · apply FileReport.ext
    · exact faithful_string.field same "file1_name" (·.file1.name) (fun _ => ⟨_, rfl, rfl⟩)
    · exact faithful_natural.field same "file1_size" (·.file1.size) (fun _ => ⟨_, rfl, rfl⟩)
    · exact faithful_string.field same "hash1" (·.file1.digest) (fun _ => ⟨_, rfl, rfl⟩)
    · exact FileType.toJson_faithful.field same "file1_type" (·.file1.fileType)
        (fun _ => ⟨_, rfl, rfl⟩)
    · exact Structure.toJson_faithful.field same "file1_structure" (·.file1.image)
        (fun _ => ⟨_, rfl, rfl⟩)
  · apply FileReport.ext
    · exact faithful_string.field same "file2_name" (·.file2.name) (fun _ => ⟨_, rfl, rfl⟩)
    · exact faithful_natural.field same "file2_size" (·.file2.size) (fun _ => ⟨_, rfl, rfl⟩)
    · exact faithful_string.field same "hash2" (·.file2.digest) (fun _ => ⟨_, rfl, rfl⟩)
    · exact FileType.toJson_faithful.field same "file2_type" (·.file2.fileType)
        (fun _ => ⟨_, rfl, rfl⟩)
    · exact Structure.toJson_faithful.field same "file2_structure" (·.file2.image)
        (fun _ => ⟨_, rfl, rfl⟩)
  · exact faithful_bool.field same "size_match" sizeMatch (fun _ => ⟨_, rfl, rfl⟩)
  · exact faithful_double.field same "similarity" similarity (fun _ => ⟨_, rfl, rfl⟩)
  · exact faithful_natural.list.field same "differences" differences (fun _ => ⟨_, rfl, rfl⟩)
  · exact ByteDifference.toJson_faithful.list.field same "byte_values" byteValues
      (fun _ => ⟨_, rfl, rfl⟩)

theorem Json.Faithful.same_iff {α : Type} {encode : α → Json} (faithful : Faithful encode)
    {first second : α}
    : Same (encode first) (encode second) ↔ first = second := by
  constructor
  · intro same
    exact faithful same
  · rintro rfl
    exact .refl _

/-- Comparisons, structures and file types are told by their documents. A list of a structure that
is absent is told from an empty one, and only the structure of which all is absent has an object
without members.
-/
theorem documents_loseNothing
    : (∀ first second : Comparison, Same first.toJson second.toJson ↔ first = second)
      ∧ (∀ first second : Structure, Same first.toJson second.toJson ↔ first = second)
      ∧ (∀ first second : FileType, Same first.toJson second.toJson ↔ first = second)
      ∧ (∀ image : Structure,
          ¬ Same { image with sections := none }.toJson { image with sections := some [] }.toJson
          ∧ ¬ Same { image with headers := none }.toJson { image with headers := some [] }.toJson
          ∧ ¬ Same { image with imports := none }.toJson { image with imports := some [] }.toJson)
      ∧ ∀ image : Structure, Same image.toJson (.object []) ↔ image.isEmpty := by
  refine ⟨fun _ _ => Comparison.toJson_faithful.same_iff,
    fun _ _ => Structure.toJson_faithful.same_iff,
    fun _ _ => FileType.toJson_faithful.same_iff, ?_, ?_⟩
  · intro image
    simp only [Structure.toJson_faithful.same_iff, Structure.mk.injEq]
    simp
  · intro image
    have noMembers : Structure.empty.toJson = .object [] := rfl
    rw [← noMembers, Structure.toJson_faithful.same_iff]
    constructor
    · rintro rfl
      rfl
    · exact Structure.eq_empty_of_isEmpty

end Bytewise

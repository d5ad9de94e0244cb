import Bytewise.Report.Encode
import Bytewise.Proofs.Json.RoundTrip

/-! What is reported is a well-formed document: no object names a member twice, whichever of its
optional members there are, and the percentage is a number of the format.
-/

namespace Bytewise

namespace Json

variable {α : Type} {encode : α → Json}

theorem wellFormed_natural (value : Nat) : WellFormed (.natural value) :=
  .integer value

theorem wellFormed_list {values : List α} (each : ∀ value, WellFormed (encode value))
    : WellFormed (list encode values) := by
  apply WellFormed.array
  intro element mem
  obtain ⟨value, -, rfl⟩ := List.mem_map.mp mem
  exact each value

theorem wellFormed_orNull {value : Option α} (each : ∀ value, WellFormed (encode value))
    : WellFormed (orNull encode value) := by
  cases value with
  | none => exact .null
  | some value => exact each value

theorem wellFormed_of_mem_member? {name : String} {value : Option α}
    (each : ∀ value, WellFormed (encode value)) (entry : String × Json)
    (mem : entry ∈ member? name encode value)
    : WellFormed entry.2 := by
  cases value with
  | none => cases mem
  | some value =>
      obtain rfl := List.mem_singleton.mp mem
      exact each value

theorem names_member?_sublist (name : String) (encode : α → Json) (value : Option α)
    : ((member? name encode value).map Prod.fst).Sublist [name] := by
  cases value with
  | none => exact List.nil_sublist _
  | some value => exact .refl _

end Json

open Json

theorem FileType.toJson_wellFormed (fileType : FileType) : Json.WellFormed fileType.toJson := by
  apply Json.WellFormed.object
  · have names := List.Sublist.append (.refl ["type", "description"])
      ((names_member?_sublist "subtype" .string fileType.subtype).append
        (names_member?_sublist "architecture" .string fileType.architecture))
    rw [List.append_assoc, List.map_append, List.map_append]
    exact names.nodup (by decide)
  · intro entry mem
    simp only [List.mem_append, List.mem_cons, List.not_mem_nil, or_false] at mem
    rcases mem with ((rfl | rfl) | subtype) | architecture
    · exact .string _
    · exact .string _
    · exact wellFormed_of_mem_member? .string entry subtype
    · exact wellFormed_of_mem_member? .string entry architecture

theorem Section.toJson_wellFormed (entry : Section) : Json.WellFormed entry.toJson := by
  have distinct : ["name", "size", "description"].Nodup := by decide
  refine .object distinct ?_
  simp [Json.WellFormed.string, wellFormed_natural]

theorem HeaderField.toJson_wellFormed (field : HeaderField) : Json.WellFormed field.toJson := by
  have distinct : ["name", "value"].Nodup := by decide
  refine .object distinct ?_
  simp [Json.WellFormed.string]

theorem ByteDifference.toJson_wellFormed (difference : ByteDifference)
    : Json.WellFormed difference.toJson := by
  have distinct : ["position", "byte1", "byte2", "char1", "char2"].Nodup := by decide
  have byte (value : Option UInt8)
      : Json.WellFormed (orNull (fun byte => .natural byte.toNat) value) :=
    wellFormed_orNull (fun byte => wellFormed_natural byte.toNat)
  have char (value : Option Char) : Json.WellFormed (orNull (fun c => .string c.toString) value) :=
    wellFormed_orNull (fun c => .string c.toString)
  refine .object distinct ?_
  simp only [List.forall_mem_cons, List.not_mem_nil, false_implies, implies_true, and_true]
  exact ⟨wellFormed_natural _, byte _, byte _, char _, char _⟩

theorem Structure.toJson_wellFormed (image : Structure) : Json.WellFormed image.toJson := by
  apply Json.WellFormed.object
  · have names := ((((names_member?_sublist "sections" (list Section.toJson) image.sections).append
      (names_member?_sublist "headers" (list HeaderField.toJson) image.headers)).append
      (names_member?_sublist "architecture" .string image.architecture)).append
      (names_member?_sublist "entry_point" .string image.entryPoint)).append
      (names_member?_sublist "imports" (list .string) image.imports)
    simp only [List.map_append]
    exact names.nodup (by decide)
  · intro entry mem
    simp only [List.mem_append] at mem
    rcases mem with (((sections | headers) | architecture) | entryPoint) | imports
    · exact wellFormed_of_mem_member? (fun _ => wellFormed_list Section.toJson_wellFormed) entry
        sections
    · exact wellFormed_of_mem_member? (fun _ => wellFormed_list HeaderField.toJson_wellFormed) entry
        headers
    · exact wellFormed_of_mem_member? .string entry architecture
    · exact wellFormed_of_mem_member? .string entry entryPoint
    · exact wellFormed_of_mem_member? (fun _ => wellFormed_list .string) entry imports

theorem Similarity.percentage_isNormal (negative : Bool) (hundredths : Nat)
    : (percentage negative hundredths).IsNormal :=
  Binary64.nearest_isNormal (show 0 < 100 by decide) negative

namespace Comparison

theorem similarity_isNormal (file1 file2 : NamedBuffer)
    : (Comparison.of file1 file2).similarity.IsNormal := by
  dsimp only [Comparison.of, Similarity.ofCount]
  split
  · exact Similarity.percentage_isNormal _ _
  · exact Similarity.percentage_isNormal _ _

theorem toJson_wellFormed {comparison : Comparison} (normal : comparison.similarity.IsNormal)
    : Json.WellFormed comparison.toJson := by
  have distinct : ["file1_name", "file2_name", "file1_size", "file2_size", "hash1", "hash2",
      "size_match", "similarity", "differences", "byte_values", "file1_type", "file2_type",
      "file1_structure", "file2_structure"].Nodup := by decide
  refine .object distinct ?_
  simp only [members, List.forall_mem_cons, List.not_mem_nil, false_implies, implies_true, and_true]
  exact ⟨.string _, .string _, wellFormed_natural _, wellFormed_natural _, .string _, .string _,
    .bool _, .double normal, wellFormed_list wellFormed_natural,
    wellFormed_list ByteDifference.toJson_wellFormed, FileType.toJson_wellFormed _,
    FileType.toJson_wellFormed _, Structure.toJson_wellFormed _, Structure.toJson_wellFormed _⟩

/-- The document of a comparison of two files is well-formed. -/
theorem of_toJson_wellFormed (file1 file2 : NamedBuffer)
    : Json.WellFormed (Comparison.of file1 file2).toJson :=
  toJson_wellFormed (similarity_isNormal file1 file2)

end Comparison

end Bytewise

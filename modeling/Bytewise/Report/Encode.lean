import Bytewise.Comparison
import Bytewise.Json.Basic

/-! The JSON form of what is reported. A field that does not apply is left out; in a byte difference
it is null instead.
-/

namespace Bytewise

def FileType.toJson (fileType : FileType) : Json :=
  .object
    ([("type", .string fileType.format.tag), ("description", .string fileType.description)]
      ++ Json.member? "subtype" .string fileType.subtype
      ++ Json.member? "architecture" .string fileType.architecture)

def Section.toJson (entry : Section) : Json :=
  .object
    [("name", .string entry.name), ("size", .natural entry.size),
      ("description", .string entry.description)]

def HeaderField.toJson (field : HeaderField) : Json :=
  .object [("name", .string field.name), ("value", .string field.value)]

/-- The structure of an image as an object. -/
def Structure.toJson (image : Structure) : Json :=
  .object
    (Json.member? "sections" (Json.list Section.toJson) image.sections
      ++ Json.member? "headers" (Json.list HeaderField.toJson) image.headers
      ++ Json.member? "architecture" .string image.architecture
      ++ Json.member? "entry_point" .string image.entryPoint
      ++ Json.member? "imports" (Json.list .string) image.imports)

def ByteDifference.toJson (difference : ByteDifference) : Json :=
  .object
    [("position", .natural difference.position),
      ("byte1", Json.orNull (fun byte => .natural byte.toNat) difference.byte1),
      ("byte2", Json.orNull (fun byte => .natural byte.toNat) difference.byte2),
      ("char1", Json.orNull (fun c => .string c.toString) difference.char1),
      ("char2", Json.orNull (fun c => .string c.toString) difference.char2)]

namespace Comparison

/-- The members of a comparison's object. -/
def members (comparison : Comparison) : List (String × Json) :=
  [("file1_name", .string comparison.file1.name),
    ("file2_name", .string comparison.file2.name),
    ("file1_size", .natural comparison.file1.size),
    ("file2_size", .natural comparison.file2.size),
    ("hash1", .string comparison.file1.digest),
    ("hash2", .string comparison.file2.digest),
    ("size_match", .bool comparison.sizeMatch),
    ("similarity", .double comparison.similarity),
    ("differences", Json.list .natural comparison.differences),
    ("byte_values", Json.list ByteDifference.toJson comparison.byteValues),
    ("file1_type", comparison.file1.fileType.toJson),
    ("file2_type", comparison.file2.fileType.toJson),
    ("file1_structure", comparison.file1.image.toJson),
    ("file2_structure", comparison.file2.image.toJson)]

def toJson (comparison : Comparison) : Json :=
  .object comparison.members

end Comparison

end Bytewise

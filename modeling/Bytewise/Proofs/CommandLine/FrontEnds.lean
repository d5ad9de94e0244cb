import Bytewise.Proofs.Faults.Run

/-! The three ways to ask about files agree: the command line with the flag, the request for a
comparison with a limited listing, and the request for an inspection. They load the same files, fail
for the same reason and report the same facts, unless links are in a loop or the standard output
does not take what is printed: these faults end a run, which then has nothing to tell.
-/

namespace Bytewise

namespace Json

/-- The value that an object has under a name. -/
def value? (name : String) : Json → Option Json
  | .object members => members.lookup name
  | _ => none

/-- An object without the members of the given names. -/
def without (names : List String) : Json → Json
  | .object members => .object (members.filter (fun member => !names.contains member.1))
  | document => document

/-- The first elements of an array. -/
def takeElements (count : Nat) : Json → Json
  | .array elements => .array (elements.take count)
  | document => document

/-- An object with only the first elements of the arrays under the given names. -/
def takeUnder (names : List String) (count : Nat) : Json → Json
  | .object members =>
      .object
        (members.map
          (fun (name, value) =>
            (name, if names.contains name then value.takeElements count else value)))
  | document => document

theorem list_take {α : Type} (encode : α → Json) (values : List α) (count : Nat)
    : list encode (values.take count) = (list encode values).takeElements count :=
  congrArg array List.map_take

/-- Two objects have the same value, each under a name of its own. -/
def Share (first : Json) (name : String) (second : Json) (otherName : String) : Prop :=
  ∃ value, first.value? name = some value ∧ second.value? otherName = some value

end Json

namespace FrontEnds

/-- The members that only a request for a comparison reports. -/
def addedNames : List String :=
  ["difference_count", "truncated", "file1_size_human", "file2_size_human", "summary"]

/-- The members that list something for each difference. -/
def listings : List String := ["differences", "byte_values"]

/-- What a document with all differences, a requested report with some of them and an inspection of
the first file have in common.
-/
structure Agree (document requested inspected : Json) (listing : Nat) : Prop where
  shared : requested.without addedNames = document.takeUnder listings listing
  count : ∃ differences, document.value? "differences" = some (.array differences)
    ∧ requested.value? "difference_count" = some (.natural differences.length)
  truncated : ∃ differences shown,
    document.value? "differences" = some (.array differences)
    ∧ requested.value? "differences" = some (.array shown)
    ∧ requested.value? "truncated" = some (.bool (shown.length < differences.length))
  name : inspected.Share "name" document "file1_name"
  size : inspected.Share "size" document "file1_size"
  digest : inspected.Share "hash" document "hash1"
  fileType : inspected.Share "type" document "file1_type"
  image : inspected.Share "structure" document "file1_structure"
  sizeText : inspected.Share "size_human" requested "file1_size_human"

/-- What a run with the flag, a request for a comparison and one for an inspection of the first
file come to, on a disk with links and with a standard output that takes some characters.
-/
structure AgreeOn (disk : Disk) (takes : Char → Bool) (sizeLimit : Int) (path1 path2 : String)
    (listing : Nat)
    : Prop where
  exitCode
    : (∃ report, Attempt.compareListed disk sizeLimit path1 path2 listing = .ok report)
      ↔ ∃ output,
        Attempt.run disk takes sizeLimit [path1, path2, CommandLine.jsonFlag] = .ok ⟨0, output⟩
  success {report : ListedComparison}
    (succeeded : Attempt.compareListed disk sizeLimit path1 path2 listing = .ok report)
    : ∃ text document inspection,
        Attempt.run disk takes sizeLimit [path1, path2, CommandLine.jsonFlag]
          = .ok ⟨0, text ++ "\n"⟩
        ∧ Json.parse text = some document
        ∧ Attempt.inspectFile disk sizeLimit path1 = .ok inspection
        ∧ Agree document report.toJson inspection.toJson listing
  failure {fault : Fault}
    (failed : Attempt.compareListed disk sizeLimit path1 path2 listing = .error fault)
    : ∃ message,
        fault.caught? = some message
        ∧ Attempt.run disk takes sizeLimit [path1, path2, CommandLine.jsonFlag]
          = .ok ⟨1, "Error: " ++ message ++ "\n"⟩
        ∧ Attempt.RefusedWith disk sizeLimit path1 path2 fault

/-- The report of a comparison agrees with its document. -/
theorem agree_of (file1 file2 : NamedBuffer) (listing : Nat)
    : Agree (Comparison.of file1 file2).toJson
        (ListedComparison.of (.of file1 file2) listing).toJson
        (Inspection.of file1).toJson listing where
  shared := by
    have kept : (ListedComparison.of (.of file1 file2) listing).toJson.without addedNames
        = .object ((Comparison.of file1 file2).cut listing).members := rfl
    rw [kept]
    simp only [Comparison.cut, Comparison.members, Json.list_take]
    rfl
  count := by
    refine ⟨_, rfl, ?_⟩
    rw [List.length_map]
    rfl
  truncated := by
    refine ⟨_, _, rfl, rfl, ?_⟩
    have cut (positions : List Nat)
        : decide (listing < positions.length)
          = decide (((positions.take listing).map Json.natural).length
            < (positions.map Json.natural).length) := by
      simp
    exact congrArg (fun truncated => some (Json.bool truncated)) (cut _)
  name := ⟨_, rfl, rfl⟩
  size := ⟨_, rfl, rfl⟩
  digest := ⟨_, rfl, rfl⟩
  fileType := ⟨_, rfl, rfl⟩
  image := ⟨_, rfl, rfl⟩
  sizeText := ⟨_, rfl, rfl⟩

/-- What is held at the first position of the file of two bytes and of the empty one. -/
def firstDifference : Json :=
  .object
    [("position", .integer 0), ("byte1", .integer 0x4D), ("byte2", .null),
      ("char1", .string "M"), ("char2", .null)]

/-- What is held at the second position. -/
def secondDifference : Json :=
  .object
    [("position", .integer 1), ("byte1", .integer 0), ("byte2", .null), ("char1", .null),
      ("char2", .null)]

def binaryType : Json :=
  .object [("type", .string "Binary"), ("description", .string "Binary Data")]

/-- What is told of the comparison of the two files, with some of the differences listed. -/
def linkedMembers (positions byteValues : List Json) : List (String × Json) :=
  [("file1_name", .string "\"é😀"), ("file2_name", .string "b"),
    ("file1_size", .integer 2), ("file2_size", .integer 0),
    ("hash1", .string "00000953"), ("hash2", .string "00000000"),
    ("size_match", .bool false), ("similarity", .double ⟨false, 0, 0⟩),
    ("differences", .array positions), ("byte_values", .array byteValues),
    ("file1_type", binaryType), ("file2_type", binaryType),
    ("file1_structure", .object []), ("file2_structure", .object [])]

/-- What a run with the flag prints about the two files. -/
def linkedDocument : Json :=
  .object (linkedMembers [.integer 0, .integer 1] [firstDifference, secondDifference])

/-- What a request for a comparison with one difference listed is answered. -/
def linkedRequest : Json :=
  .object
    (linkedMembers [.integer 0] [firstDifference]
      ++ [("difference_count", .integer 2), ("truncated", .bool true),
        ("file1_size_human", .string "2 Bytes"), ("file2_size_human", .string "0 Bytes"),
        ("summary",
          .string
            "'\"é😀' and 'b' differ at 2 positions; similarity 0.00%, sizes differ.")])

/-- What a request for an inspection of the first file is answered. -/
def linkedInspection : Json :=
  .object
    [("name", .string "\"é😀"), ("size", .integer 2), ("size_human", .string "2 Bytes"),
      ("hash", .string "00000953"), ("type", binaryType), ("structure", .object [])]

/-- A document is printed in ASCII, whatever the names of the files are. -/
theorem takesAscii_document (file1 file2 : NamedBuffer)
    : ((Comparison.of file1 file2).toJson.render ++ "\n").toList.all Attempt.takesAscii := by
  have wellFormed := Comparison.of_toJson_wellFormed file1 file2
  have ascii := (Json.parse_render wellFormed).1.append (show Json.IsAscii ['\n'] by decide)
  rw [String.toList_append, List.all_eq_true]
  exact fun c mem => decide_eq_true (ascii c mem)

/-- A text that a comparison is printed as is read back as its document. -/
theorem document_eq {file1 file2 : NamedBuffer} {text : String} {document : Json}
    (printed : (Comparison.of file1 file2).toJson.render ++ "\n" = text ++ "\n")
    (parsed : Json.parse text = some document)
    : document = (Comparison.of file1 file2).toJson := by
  have wellFormed := Comparison.of_toJson_wellFormed file1 file2
  have readBack := (Json.parse_render wellFormed).2
  rw [(String.append_left_inj _).mp printed] at readBack
  exact Option.some.inj (parsed.symm.trans readBack)

end FrontEnds

end Bytewise

import Bytewise.CommandLine
import Bytewise.Proofs.Report.Encode

/-! The report in JSON is read back as what it reports. -/

namespace Bytewise.CommandLine

variable {tree : FileTree} {sizeLimit : Int} {path1 path2 : String}

theorem exitCode_failure_ne (line : String) : (Outcome.failure line).exitCode ≠ 0 :=
  show (1 : UInt32) ≠ 0 by decide

theorem compare_eq_ok {file1 file2 : NamedBuffer}
    (loaded1 : tree.load sizeLimit path1 = .ok file1)
    (loaded2 : tree.load sizeLimit path2 = .ok file2)
    : tree.compare sizeLimit path1 path2 = .ok (.of file1 file2) := by
  rw [FileTree.compare, loaded1, loaded2]
  rfl

/-- With the flag, a comparison is printed as a document and a line break. -/
theorem run_eq_success {arguments : List String} {comparison : Comparison}
    (twoPaths : paths arguments = [path1, path2]) (flag : jsonFlag ∈ arguments)
    (compared : tree.compare sizeLimit path1 path2 = .ok comparison)
    : run tree sizeLimit arguments = .success (comparison.toJson.render ++ "\n") := by
  have asJson : arguments.contains jsonFlag := List.contains_iff_mem.mpr flag
  simp only [run, twoPaths, compared, report, asJson, if_true]

/-- A comparison that is refused is reported in one line. -/
theorem run_eq_failure {arguments : List String} {error : LoadError}
    (twoPaths : paths arguments = [path1, path2])
    (refused : tree.compare sizeLimit path1 path2 = .error error)
    : run tree sizeLimit arguments = .failure ("Error: " ++ error.message) := by
  simp only [run, twoPaths, refused]

/-- Without two paths, nothing is compared. -/
theorem run_eq_usage {arguments : List String} (notTwo : (paths arguments).length ≠ 2)
    : run tree sizeLimit arguments = .failure usage := by
  rw [run]
  split
  case h_1 path1 path2 twoPaths =>
    rw [twoPaths] at notTwo
    exact absurd rfl notTwo
  case h_2 => rfl

/-- Whatever the names and contents of two files are, the output for them with the flag is a line
break behind one document in ASCII, which is read back as the comparison: with the members, the
lists, the texts and the numbers that the comparison has, and no name given twice.
-/
theorem run_roundTrip {arguments : List String} {file1 file2 : NamedBuffer}
    (twoPaths : paths arguments = [path1, path2]) (flag : jsonFlag ∈ arguments)
    (loaded1 : tree.load sizeLimit path1 = .ok file1)
    (loaded2 : tree.load sizeLimit path2 = .ok file2)
    : ∃ text,
        run tree sizeLimit arguments = ⟨0, text ++ "\n"⟩
        ∧ (∀ c ∈ (text ++ "\n").toList, c.toNat < 0x80)
        ∧ Json.parse text = some (Comparison.of file1 file2).toJson
        ∧ Json.WellFormed (Comparison.of file1 file2).toJson := by
  have wellFormed := Comparison.of_toJson_wellFormed file1 file2
  obtain ⟨ascii, parsed⟩ := Json.parse_render wellFormed
  refine ⟨_, run_eq_success twoPaths flag (compare_eq_ok loaded1 loaded2), ?_, parsed, wellFormed⟩
  rw [String.toList_append]
  exact ascii.append (by decide)

/-- A directory with two files, one of them empty and one with a name that has to be escaped. -/
def twoFiles : FileTree where
  workingDirectory := []
  root := .directory [("\"é😀", .file #[0x4D, 0x00]), ("b", .file #[])]

theorem run_roundTrip_twoFiles
    : paths ["\"é😀", "--json", "b"] = ["\"é😀", "b"]
      ∧ jsonFlag ∈ ["\"é😀", "--json", "b"]
      ∧ twoFiles.load 100 "\"é😀" = .ok ⟨"\"é😀", #[0x4D, 0x00]⟩
      ∧ twoFiles.load 100 "b" = .ok ⟨"b", #[]⟩
      ∧ ∃ text,
          run twoFiles 100 ["\"é😀", "--json", "b"] = ⟨0, text ++ "\n"⟩
          ∧ (∀ c ∈ (text ++ "\n").toList, c.toNat < 0x80)
          ∧ Json.parse text
            = some (Comparison.of ⟨"\"é😀", #[0x4D, 0x00]⟩ ⟨"b", #[]⟩).toJson
          ∧ Json.WellFormed
            (Comparison.of ⟨"\"é😀", #[0x4D, 0x00]⟩ ⟨"b", #[]⟩).toJson := by
  have twoPaths : paths ["\"é😀", "--json", "b"] = ["\"é😀", "b"] := by decide
  exact ⟨twoPaths, by decide, rfl, rfl, run_roundTrip twoPaths (by decide) rfl rfl⟩

end Bytewise.CommandLine

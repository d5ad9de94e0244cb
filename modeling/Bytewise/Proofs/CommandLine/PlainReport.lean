import Bytewise.Proofs.CommandLine.JsonReport
import Bytewise.Proofs.Report.DifferenceLines

/-! The report in plain text accounts for every difference. Behind a heading, the first ones have a
line each, which tells all of the entry, and the number of the others is told behind them.
-/

namespace Bytewise

-----------------------------------------------------------------------------------------
-- Lines as text
-----------------------------------------------------------------------------------------

namespace Report

theorem ofLines_append (first second : List String)
    : ofLines (first ++ second) = ofLines first ++ ofLines second := by
  rw [ofLines, List.map_append, String.join_append, ofLines, ofLines]

theorem toList_ofLines (lines : List String)
    : (ofLines lines).toList = lines.flatMap (fun line => line.toList ++ ['\n']) := by
  simp [ofLines, List.flatMap_map]

/-- A text of lines is split into them at its line breaks, and nothing stands behind the last one,
by induction on the lines.
-/
theorem splitOn_ofLines {lines : List String} (single : ∀ line ∈ lines, '\n' ∉ line.toList)
    : (ofLines lines).toList.splitOn '\n' = lines.map String.toList ++ [[]] := by
  rw [toList_ofLines]
  induction lines with
  | nil => rfl
  | cons line lines ih =>
      obtain ⟨first, rest⟩ := List.forall_mem_cons.mp single
      rw [List.flatMap_cons, List.append_assoc, List.singleton_append,
        List.splitOn_append_cons_self_of_not_mem first, ih rest]
      rfl

end Report

namespace CommandLine

open Report

variable {tree : FileTree} {sizeLimit : Int} {path1 path2 : String}

-----------------------------------------------------------------------------------------
-- What is printed
-----------------------------------------------------------------------------------------

/-- What is printed about one of the files. -/
def aboutFile (label : String) (file : FileReport) : String :=
  String.join
    [label, ": ", file.name, " (", ByteSize.describe file.size, ")\n",
      "  Type: ", file.fileType.description, "\n",
      "  Hash: ", file.digest, "\n"]

/-- What is printed in front of the lines for differences. -/
def heading (path1 path2 : String) (count : Nat) (comparison : Comparison) : String :=
  String.join
    ["--- Comparing ", path1, " and ", path2, " ---\n\n",
      aboutFile "File 1" comparison.file1,
      aboutFile "File 2" comparison.file2,
      "\nSize match: ", if comparison.sizeMatch then "yes" else "no",
      "\nSimilarity: ", comparison.similarity.fixed 2, "%\n",
      "Differences: ", toString count, "\n"]

/-- The line for the differences beyond some limit, if there are any. -/
def remainder (limit count : Nat) : List String :=
  if limit < count then ["  ... " ++ toString (count - limit) ++ " more"] else []

theorem lineBreak_not_mem_remainder (limit count : Nat)
    : ∀ line ∈ remainder limit count, '\n' ∉ line.toList := by
  intro line mem
  rw [remainder] at mem
  split at mem
  case isTrue =>
    have digits : (toString (count - limit)).toList = Nat.toDigits 10 (count - limit) :=
      Nat.toList_repr
    have noDigit : '\n' ∉ Nat.toDigits 10 (count - limit) := fun digit =>
      absurd (Nat.isDigit_of_mem_toDigits (by decide) (by decide) digit) (by decide)
    obtain rfl := List.mem_singleton.mp mem
    simp only [String.toList_append, digits, List.mem_append, not_or]
    exact ⟨⟨by decide, noDigit⟩, by decide⟩
  case isFalse => cases mem

/-- The lines in front of those for differences are the heading. -/
theorem ofLines_lines (comparison : Comparison)
    : ofLines
        (["--- Comparing " ++ path1 ++ " and " ++ path2 ++ " ---", ""]
          ++ Report.lines comparison)
      = heading path1 path2 comparison.differenceCount comparison
        ++ ofLines (differenceLines comparison) := by
  have file (label : String) (file : FileReport)
      : ofLines (fileLines label file) = aboutFile label file := by
    rw [← String.toList_inj]
    simp [fileLines, aboutFile, toList_ofLines]
  have front
      : ofLines
          (["--- Comparing " ++ path1 ++ " and " ++ path2 ++ " ---", ""]
            ++ (fileLines "File 1" comparison.file1
              ++ fileLines "File 2" comparison.file2
              ++ ["",
                "Size match: " ++ (if comparison.sizeMatch then "yes" else "no"),
                "Similarity: " ++ comparison.similarity.fixed 2 ++ "%",
                "Differences: " ++ toString comparison.differenceCount]))
        = heading path1 path2 comparison.differenceCount comparison := by
    rw [ofLines_append, ofLines_append, ofLines_append, file, file, ← String.toList_inj]
    simp [heading, toList_ofLines]
  rw [Report.lines, ← List.append_assoc, ofLines_append, front]

/-- Without the flag, a comparison is printed as a heading and lines for differences. -/
theorem run_plain {file1 file2 : NamedBuffer} (notFlag1 : path1 ≠ jsonFlag)
    (notFlag2 : path2 ≠ jsonFlag) (loaded1 : tree.load sizeLimit path1 = .ok file1)
    (loaded2 : tree.load sizeLimit path2 = .ok file2)
    : run tree sizeLimit [path1, path2]
      = ⟨0,
          heading path1 path2 (differingPositions file1.content file2.content) (.of file1 file2)
            ++ ofLines
              (((Comparison.of file1 file2).byteValues.take listedDifferences).map differenceLine
                ++ remainder listedDifferences
                  (differingPositions file1.content file2.content))⟩ := by
  have twoPaths : paths [path1, path2] = [path1, path2] := by simp [paths, notFlag1, notFlag2]
  have noFlag : [path1, path2].contains jsonFlag = false := by
    simp [notFlag1.symm, notFlag2.symm]
  have count : (Comparison.of file1 file2).differenceCount
      = differingPositions file1.content file2.content :=
    length_differences file1.content file2.content
  simp only [run, twoPaths, compare_eq_ok loaded1 loaded2, report, noFlag, Bool.false_eq_true,
    if_false, ofLines_lines, differenceLines, remainder, count]
  rfl

/-- Whatever the contents of two files are, the output without the flag is a heading and then, split
at its line breaks, a line for each of the first 16 positions at which they differ, in ascending
order, and one that tells how many more there are exactly when there are more. Entries for any
positions of any buffers that are printed as the same line have the same position and the same
bytes, absent ones included.
-/
theorem plainReport_accounts
    : (∀ file1 file2 : NamedBuffer,
        let count := differingPositions file1.content file2.content
        ∃ entries listing,
          ListsFirst 16 file1.content file2.content entries
          ∧ (∀ entry ∈ entries, '\n' ∉ (differenceLine entry).toList)
          ∧ listing.toList.splitOn '\n'
            = (entries.map differenceLine ++ remainder 16 count).map String.toList ++ [[]]
          ∧ ∀ (tree : FileTree) (sizeLimit : Int) (path1 path2 : String),
              path1 ≠ jsonFlag → path2 ≠ jsonFlag
              → tree.load sizeLimit path1 = .ok file1
              → tree.load sizeLimit path2 = .ok file2
              → run tree sizeLimit [path1, path2]
                = ⟨0, heading path1 path2 count (.of file1 file2) ++ listing⟩)
      ∧ ∀ (first second otherFirst otherSecond : Buffer) (positions otherPositions : List Int)
          (entries otherEntries : List ByteDifference),
          bytesAt first second positions = .ok entries
          → bytesAt otherFirst otherSecond otherPositions = .ok otherEntries
          → ∀ entry ∈ entries, ∀ other ∈ otherEntries,
              differenceLine entry = differenceLine other
              → entry.position = other.position
                ∧ entry.byte1 = other.byte1
                ∧ entry.byte2 = other.byte2 := by
  constructor
  · intro file1 file2 count
    have lists := listsFirst_take 16 file1.content file2.content
    have single : ∀ entry ∈ ((differences file1.content file2.content).map
        (ByteDifference.at file1.content file2.content)).take 16,
        '\n' ∉ (differenceLine entry).toList :=
      fun entry mem => lineBreak_not_mem_differenceLine (lists.isEntry mem)
    refine ⟨_, _, lists, single, splitOn_ofLines ?_, ?_⟩
    · intro line mem
      rcases List.mem_append.mp mem with listed | more
      · obtain ⟨entry, inEntries, rfl⟩ := List.mem_map.mp listed
        exact single entry inEntries
      · exact lineBreak_not_mem_remainder 16 count line more
    · intro tree sizeLimit path1 path2 notFlag1 notFlag2 loaded1 loaded2
      exact run_plain notFlag1 notFlag2 loaded1 loaded2
  · intro first second otherFirst otherSecond positions otherPositions entries otherEntries found
      otherFound entry mem other otherMem same
    exact entry_eq_of_differenceLine (isEntry_of_mem_bytesAt found mem)
      (isEntry_of_mem_bytesAt otherFound otherMem) same

/-- A directory with a file of 17 bytes and an empty one, which differ at one position more than are
listed.
-/
def seventeenBytes : FileTree where
  workingDirectory := []
  root := .directory [("a", .file (.replicate 17 0x4D)), ("b", .file #[])]

/-- What is printed about these two files. -/
def seventeenBytesReport : String :=
  "--- Comparing a and b ---\n\n"
    ++ "File 1: a (17 Bytes)\n  Type: Text File\n  Hash: 54454cb3\n"
    ++ "File 2: b (0 Bytes)\n  Type: Binary Data\n  Hash: 00000000\n\n"
    ++ "Size match: no\nSimilarity: 0.00%\nDifferences: 17\n"
    ++ String.join
      (["0", "1", "2", "3", "4", "5", "6", "7", "8", "9", "a", "b", "c", "d", "e", "f"].map
        (fun digit => "  0x0000000" ++ digit ++ ": 0x4d (M) | N/A (N/A)\n"))
    ++ "  ... 1 more\n"

/-- What is held far behind the end of two buffers. -/
def farBehind : ByteDifference := ⟨0x100000000, none, none, none, none⟩

/-- All of 17 bytes are missing in the other file, and a line for nothing at a position of more
digits than are filled up is the same one for any buffers that end before.
-/
theorem plainReport_accounts_seventeenBytes
    : "a" ≠ jsonFlag ∧ "b" ≠ jsonFlag
      ∧ seventeenBytes.load 100 "a" = .ok ⟨"a", .replicate 17 0x4D⟩
      ∧ seventeenBytes.load 100 "b" = .ok ⟨"b", #[]⟩
      ∧ run seventeenBytes 100 ["a", "b"] = ⟨0, seventeenBytesReport⟩
      ∧ (∃ entries listing,
          ListsFirst 16 (.replicate 17 0x4D) #[] entries
          ∧ (∀ entry ∈ entries, '\n' ∉ (differenceLine entry).toList)
          ∧ listing.toList.splitOn '\n'
            = (entries.map differenceLine
                ++ remainder 16 (differingPositions (.replicate 17 0x4D) #[])).map String.toList
              ++ [[]]
          ∧ seventeenBytesReport
            = heading "a" "b" (differingPositions (.replicate 17 0x4D) #[])
                (.of ⟨"a", .replicate 17 0x4D⟩ ⟨"b", #[]⟩)
              ++ listing)
      ∧ bytesAt #[] #[] [0x100000000] = .ok [farBehind]
      ∧ bytesAt #[0x4D] #[0x00] [0, 0x100000000]
        = .ok [⟨0, some 0x4D, some 0x00, some 'M', none⟩, farBehind]
      ∧ differenceLine farBehind = "  0x100000000: N/A (N/A) | N/A (N/A)"
      ∧ differenceLine farBehind = differenceLine farBehind
      ∧ farBehind.position = farBehind.position
      ∧ farBehind.byte1 = farBehind.byte1
      ∧ farBehind.byte2 = farBehind.byte2 := by
  have notFlag1 : "a" ≠ jsonFlag := by decide
  have notFlag2 : "b" ≠ jsonFlag := by decide
  have found : bytesAt #[] #[] [0x100000000] = .ok [farBehind] := rfl
  have otherFound : bytesAt #[0x4D] #[0x00] [0, 0x100000000]
      = .ok [⟨0, some 0x4D, some 0x00, some 'M', none⟩, farBehind] := rfl
  have ran : run seventeenBytes 100 ["a", "b"] = ⟨0, seventeenBytesReport⟩ := by
    decide +kernel
  obtain ⟨entries, listing, lists, single, split, printed⟩ :=
    plainReport_accounts.1 ⟨"a", .replicate 17 0x4D⟩ ⟨"b", #[]⟩
  have told := printed seventeenBytes 100 "a" "b" notFlag1 notFlag2 rfl rfl
  refine ⟨notFlag1, notFlag2, rfl, rfl, ran,
    ⟨entries, listing, lists, single, split, congrArg Outcome.output (ran.symm.trans told)⟩,
    found, otherFound, by decide +kernel, rfl,
    plainReport_accounts.2 _ _ _ _ _ _ _ _ found otherFound farBehind (by simp) farBehind
      (by simp) rfl⟩

end CommandLine

end Bytewise

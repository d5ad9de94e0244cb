import Bytewise.Proofs.Comparison.Lookup
import Bytewise.Proofs.Comparison.Patch
import Bytewise.Proofs.Comparison.Percentage
import Bytewise.Proofs.Faults.Loading
import Bytewise.Request

/-! Comparison in steps that can fail. Two files that are loaded are compared without a fault, since
the test in front of each step keeps it inside of where it is defined; otherwise the fault is the
first one of loading them.
-/

namespace Bytewise

/-- The fault of a percentage that cannot be told. -/
def Similarity.Failure.fault : Similarity.Failure → Fault
  | .overflow => .decimalOverflow
  | .tooManyDigits => .tooManyDigits

namespace Attempt

-----------------------------------------------------------------------------------------
-- Comparison
-----------------------------------------------------------------------------------------
/-- What a buffer holds at a position, which is known not to be negative. -/
def held (buffer : Buffer) (position : Int) : Attempt (Option UInt8) :=
  if position < buffer.size then (byteAt buffer position.toNat).map some else .ok none

def entryAt (first second : Buffer) (position : Int) : Attempt ByteDifference :=
  if position < 0 then
    .error (.invalidValue (LookupError.negativePosition position).message)
  else do
    let byte1 ← held first position
    let byte2 ← held second position
    return {
      position := position.toNat
      byte1
      byte2
      char1 := glyph? byte1
      char2 := glyph? byte2
    }

/-- The entries for positions, one by one. -/
def entriesAt (first second : Buffer) (positions : List Int) : Attempt (List ByteDifference) :=
  positions.mapM (entryAt first second)

/-- The percentage that agrees, which may be impossible to tell. -/
def similarity (total count : Int) : Attempt Binary64 :=
  match Similarity.failure? total count with
  | some failure => .error failure.fault
  | none => .ok (Similarity.ofCount total count)

def fileReport (file : NamedBuffer) : Attempt FileReport := do
  let (fileType, image) ← inspect file.content
  return {
    name := file.name
    size := file.content.size
    digest := Checksum.digest file.content
    fileType
    image
  }

def compare (file1 file2 : NamedBuffer) : Attempt Comparison := do
  let positions := differences file1.content file2.content
  let about1 ← fileReport file1
  let about2 ← fileReport file2
  let similarity ← similarity (max file1.content.size file2.content.size) positions.length
  let byteValues ← entriesAt file1.content file2.content (positions.map Int.ofNat)
  return {
    file1 := about1
    file2 := about2
    sizeMatch := sizesMatch file1.content file2.content
    similarity
    differences := positions
    byteValues
  }

theorem held_eq (buffer : Buffer) {position : Int} (valid : 0 ≤ position)
    : held buffer position = .ok buffer[position.toNat]? := by
  rw [held]
  split
  case isTrue inside =>
    rw [byteAt, Array.getElem?_eq_getElem (by omega)]
    rfl
  case isFalse behind => rw [Array.getElem?_eq_none (by omega)]

theorem entryAt_of_valid (first second : Buffer) {position : Int} (valid : 0 ≤ position)
    : entryAt first second position = .ok (.at first second position.toNat) := by
  rw [entryAt, if_neg (Int.not_lt.mpr valid), held_eq first valid, held_eq second valid]
  rfl

/-- Positions one by one come to the lookup of all of them, by induction on the positions. -/
theorem entriesAt_eq (first second : Buffer) (positions : List Int)
    : entriesAt first second positions
      = (bytesAt first second positions).mapError (fun error => .invalidValue error.message) := by
  rw [entriesAt]
  induction positions with
  | nil => rfl
  | cons position rest ih =>
      rw [List.mapM_cons, ih]
      rcases Int.lt_or_le position 0 with negative | valid
      · rw [bytesAt_cons_of_negative negative, entryAt, if_pos negative]
        rfl
      · rw [bytesAt_cons_of_valid valid, entryAt_of_valid first second valid]
        cases bytesAt first second rest with
        | error error | ok entries => rfl

/-- No more positions differ than there are, and no more agree than a percentage can be told for. -/
theorem similarity_eq {total count : Nat} (within : count ≤ total)
    (fits : total < Binary64.overflow)
    : similarity total count = .ok (Similarity.ofCount total count) := by
  have small : total - count < 10 ^ 309 :=
    (Nat.sub_le ..).trans_lt (fits.trans (show Binary64.overflow < 10 ^ 309 by decide +kernel))
  obtain ⟨number, found, -⟩ :=
    Similarity.exists_isRoundedOnce within (Similarity.lt_agreeingLimit small (by decide))
  have told := (Option.ite_none_right_eq_some.mp found).1
  rw [similarity, told]

theorem fileReport_eq (file : NamedBuffer) : fileReport file = .ok (.of file) := by
  rw [fileReport, inspect_eq]
  rfl

theorem compare_eq {file1 file2 : NamedBuffer} (fits1 : file1.content.size < Binary64.overflow)
    (fits2 : file2.content.size < Binary64.overflow)
    : compare file1 file2 = .ok (.of file1 file2) := by
  have within := length_differences_le file1.content file2.content
  have agreement := similarity_eq within (Nat.max_lt.mpr ⟨fits1, fits2⟩)
  have entries := entriesAt_eq file1.content file2.content
    ((differences file1.content file2.content).map Int.ofNat)
  rw [Patch.bytesAt_natCast] at entries
  rw [Nat.cast_max] at agreement
  simp only [compare, fileReport_eq, agreement, entries]
  rfl

-----------------------------------------------------------------------------------------
-- Files
-----------------------------------------------------------------------------------------

/-- The comparison of two files, of which the first is loaded first. -/
def compareFiles (disk : Disk) (sizeLimit : Int) (path1 path2 : String) : Attempt Comparison := do
  let file1 ← load disk sizeLimit path1
  let file2 ← load disk sizeLimit path2
  compare file1 file2

/-- A comparison is refused with the fault that the first file cannot be loaded for, or with the
second file's if the first one can be loaded.
-/
def RefusedWith (disk : Disk) (sizeLimit : Int) (path1 path2 : String) (fault : Fault) : Prop :=
  load disk sizeLimit path1 = .error fault
  ∨ (∃ file1, load disk sizeLimit path1 = .ok file1)
    ∧ load disk sizeLimit path2 = .error fault

variable {disk : Disk} {sizeLimit : Int} {path1 path2 : String} {fault : Fault}

theorem compareFiles_of_error1 (failed : load disk sizeLimit path1 = .error fault)
    : compareFiles disk sizeLimit path1 path2 = .error fault := by
  rw [compareFiles, failed]
  rfl

theorem compareFiles_of_error2 {file1 : NamedBuffer}
    (loaded : load disk sizeLimit path1 = .ok file1)
    (failed : load disk sizeLimit path2 = .error fault)
    : compareFiles disk sizeLimit path1 path2 = .error fault := by
  rw [compareFiles, loaded, failed]
  rfl

theorem compareFiles_of_loaded {file1 file2 : NamedBuffer} (fits : disk.tree.SizesFit)
    (nonneg : 0 ≤ sizeLimit) (loaded1 : load disk sizeLimit path1 = .ok file1)
    (loaded2 : load disk sizeLimit path2 = .ok file2)
    : compareFiles disk sizeLimit path1 path2 = .ok (.of file1 file2) := by
  rw [compareFiles, loaded1, loaded2]
  exact compare_eq (size_lt_overflow fits nonneg loaded1) (size_lt_overflow fits nonneg loaded2)

/-- Two files are compared, or the comparison is refused with the first fault there is. -/
theorem compareFiles_cases (fits : disk.tree.SizesFit) (nonneg : 0 ≤ sizeLimit)
    (path1 path2 : String)
    : (∃ file1 file2,
        load disk sizeLimit path1 = .ok file1
        ∧ load disk sizeLimit path2 = .ok file2
        ∧ compareFiles disk sizeLimit path1 path2 = .ok (.of file1 file2))
      ∨ ∃ fault,
        RefusedWith disk sizeLimit path1 path2 fault
        ∧ compareFiles disk sizeLimit path1 path2 = .error fault := by
  cases loaded1 : load disk sizeLimit path1 with
  | error fault => exact Or.inr ⟨fault, Or.inl loaded1, compareFiles_of_error1 loaded1⟩
  | ok file1 =>
      cases loaded2 : load disk sizeLimit path2 with
      | error fault =>
          exact Or.inr ⟨fault, Or.inr ⟨⟨file1, loaded1⟩, loaded2⟩,
            compareFiles_of_error2 loaded1 loaded2⟩
      | ok file2 =>
          exact Or.inl ⟨file1, file2, rfl, rfl,
            compareFiles_of_loaded fits nonneg loaded1 loaded2⟩

/-- Where the spellings that are followed lead somewhere, what a comparison is refused with is
caught.
-/
theorem caught?_of_refusedWith (fits : disk.tree.SizesFit) (nonneg : 0 ≤ sizeLimit)
    (resolves : ∀ path, disk.LooksAt sizeLimit path1 path2 path → disk.Resolves path)
    (refused : RefusedWith disk sizeLimit path1 path2 fault)
    : ∃ message, fault.caught? = some message := by
  rcases refused with failed1 | ⟨loaded1, failed2⟩
  · exact caught?_of_load fits nonneg (resolves _ .first) failed1
  · have loadable := (isLoadable_iff fits nonneg).mpr loaded1
    exact caught?_of_load fits nonneg (resolves _ (.second loadable)) failed2

/-- A comparison is refused only if one of the files cannot be loaded. -/
theorem not_isLoadable_of_refusedWith (fits : disk.tree.SizesFit) (nonneg : 0 ≤ sizeLimit)
    (refused : RefusedWith disk sizeLimit path1 path2 fault)
    : ¬ (disk.IsLoadable sizeLimit path1 ∧ disk.IsLoadable sizeLimit path2) := by
  rintro ⟨loadable1, loadable2⟩
  rw [isLoadable_iff fits nonneg] at loadable1 loadable2
  rcases refused with failed1 | ⟨-, failed2⟩
  · obtain ⟨file, loaded⟩ := loadable1
    cases failed1.symm.trans loaded
  · obtain ⟨file, loaded⟩ := loadable2
    cases failed2.symm.trans loaded

/-- The sizes of files that are compared can be told. -/
theorem sizes_lt_overflow (fits : disk.tree.SizesFit) (nonneg : 0 ≤ sizeLimit)
    {comparison : Comparison}
    (compared : compareFiles disk sizeLimit path1 path2 = .ok comparison)
    : comparison.file1.size < Binary64.overflow ∧ comparison.file2.size < Binary64.overflow := by
  rcases compareFiles_cases fits nonneg path1 path2 with
    ⟨file1, file2, loaded1, loaded2, found⟩ | ⟨fault, -, found⟩
  · cases compared.symm.trans found
    exact ⟨size_lt_overflow fits nonneg loaded1, size_lt_overflow fits nonneg loaded2⟩
  · cases compared.symm.trans found

/-- Without links, files are compared as the tree alone says. -/
theorem compareFiles_ofTree {tree : FileTree} (fits : tree.SizesFit)
    (nonneg : 0 ≤ sizeLimit) (path1 path2 : String)
    : compareFiles (.ofTree tree) sizeLimit path1 path2
      = (tree.compare sizeLimit path1 path2).mapError LoadError.fault := by
  have load1 := load_ofTree fits nonneg path1
  have load2 := load_ofTree fits nonneg path2
  rw [FileTree.compare]
  cases loaded1 : tree.load sizeLimit path1 with
  | error error =>
      rw [loaded1] at load1
      exact compareFiles_of_error1 load1
  | ok file1 =>
      rw [loaded1] at load1
      cases loaded2 : tree.load sizeLimit path2 with
      | error error =>
          rw [loaded2] at load2
          exact compareFiles_of_error2 load1 load2
      | ok file2 =>
          rw [loaded2] at load2
          exact compareFiles_of_loaded fits nonneg load1 load2

end Attempt

end Bytewise

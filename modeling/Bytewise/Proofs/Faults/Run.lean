import Bytewise.Proofs.CommandLine.JsonReport
import Bytewise.Proofs.Faults.Comparison

/-! Requests and runs of the command line in steps that can fail, on a disk with links. Only the
faults of loading are turned into an outcome, so a run ends with an outcome where all other steps
come to what the total functions say and the standard output takes what is printed. On a tree
without links everything comes to what the total functions say.
-/

namespace Bytewise

/-- The fault that a request for a comparison is refused with. -/
def RequestError.fault : RequestError → Fault
  | .negativeListing => .invalidValue negativeListing.message
  | .load error => error.fault

namespace Attempt

-----------------------------------------------------------------------------------------
-- Requests
-----------------------------------------------------------------------------------------

/-- A size in words, for which it must not be too large. -/
def sizeText (size : Nat) : Attempt String :=
  present .overflow (ByteSize.describe? size)

/-- The comparison of two files with at most `listing` differences listed. -/
def compareListed (disk : Disk) (sizeLimit : Int) (path1 path2 : String) (listing : Int)
    : Attempt ListedComparison := do
  if listing < 0 then
    .error (.invalidValue RequestError.negativeListing.message)
  else
    let comparison ← compareFiles disk sizeLimit path1 path2
    let sizeText1 ← sizeText comparison.file1.size
    let sizeText2 ← sizeText comparison.file2.size
    return {
      listed := comparison.cut listing.toNat
      differenceCount := comparison.differenceCount
      truncated := listing.toNat < comparison.differenceCount
      sizeText1
      sizeText2
      summary := comparison.summary
    }

/-- The inspection of a file. -/
def inspectFile (disk : Disk) (sizeLimit : Int) (path : String) : Attempt Inspection := do
  let file ← load disk sizeLimit path
  let report ← fileReport file
  let sizeText ← sizeText file.content.size
  return { file := report, sizeText }

theorem sizeText_eq {size : Nat} (fits : size < Binary64.overflow)
    : sizeText size = .ok (ByteSize.describe size) := by
  rw [sizeText, ByteSize.describe?, if_pos ((Binary64.inRange_ofInt_iff size).mpr fits)]
  rfl

section Requests

variable {disk : Disk} {sizeLimit : Int} {path1 path2 : String}

theorem compareListed_of_ok {comparison : Comparison} (fits : disk.tree.SizesFit)
    (nonneg : 0 ≤ sizeLimit)
    (compared : compareFiles disk sizeLimit path1 path2 = .ok comparison) (listing : Nat)
    : compareListed disk sizeLimit path1 path2 listing = .ok (.of comparison listing) := by
  obtain ⟨fits1, fits2⟩ := sizes_lt_overflow fits nonneg compared
  rw [compareListed, if_neg (Int.not_lt.mpr (Int.natCast_nonneg listing)), compared]
  simp only [ok_bind, sizeText_eq fits1, sizeText_eq fits2]
  rfl

theorem compareListed_of_error {fault : Fault}
    (compared : compareFiles disk sizeLimit path1 path2 = .error fault) (listing : Nat)
    : compareListed disk sizeLimit path1 path2 listing = .error fault := by
  rw [compareListed, if_neg (Int.not_lt.mpr (Int.natCast_nonneg listing)), compared]
  rfl

theorem inspectFile_of_error {fault : Fault} (failed : load disk sizeLimit path1 = .error fault)
    : inspectFile disk sizeLimit path1 = .error fault := by
  rw [inspectFile, failed]
  rfl

theorem inspectFile_of_ok {file : NamedBuffer} (fits : disk.tree.SizesFit)
    (nonneg : 0 ≤ sizeLimit) (loaded : load disk sizeLimit path1 = .ok file)
    : inspectFile disk sizeLimit path1 = .ok (.of file) := by
  have size := sizeText_eq (size_lt_overflow fits nonneg loaded)
  simp only [inspectFile, loaded, fileReport_eq, ok_bind, size]
  rfl

end Requests

-----------------------------------------------------------------------------------------
-- Reports and runs
-----------------------------------------------------------------------------------------

def fileLines (label : String) (file : FileReport) : Attempt (List String) := do
  let size ← sizeText file.size
  return [label ++ ": " ++ file.name ++ " (" ++ size ++ ")",
    "  Type: " ++ file.fileType.description,
    "  Hash: " ++ file.digest]

def lines (comparison : Comparison) : Attempt (List String) := do
  let about1 ← fileLines "File 1" comparison.file1
  let about2 ← fileLines "File 2" comparison.file2
  return about1 ++ about2
    ++ ["",
      "Size match: " ++ (if comparison.sizeMatch then "yes" else "no"),
      "Similarity: " ++ comparison.similarity.fixed 2 ++ "%",
      "Differences: " ++ toString comparison.differenceCount]
    ++ Report.differenceLines comparison

def report (asJson : Bool) (path1 path2 : String) (comparison : Comparison)
    : Attempt String := do
  if asJson then
    return comparison.toJson.render ++ "\n"
  else
    return Report.ofLines
      (["--- Comparing " ++ path1 ++ " and " ++ path2 ++ " ---", ""] ++ (← lines comparison))

/-- The report on two files, or the text of a fault that is caught. -/
def answer (disk : Disk) (sizeLimit : Int) (asJson : Bool) (path1 path2 : String)
    : Attempt CommandLine.Outcome :=
  match compareFiles disk sizeLimit path1 path2 with
  -- Faults of the report itself are not caught.
  | .ok comparison => (report asJson path1 path2 comparison).map .success
  | .error fault =>
      match fault.caught? with
      | some text => .ok (.failure ("Error: " ++ text))
      | none => .error fault

/-- What a run has to print, and the code to exit with behind that. -/
def outcome (disk : Disk) (sizeLimit : Int) (arguments : List String)
    : Attempt CommandLine.Outcome :=
  let paths := CommandLine.paths arguments
  if paths.length ≠ 2 then
    .ok (.failure CommandLine.usage)
  else do
    let path1 ← present .outOfBounds paths[0]?
    let path2 ← present .outOfBounds paths[1]?
    answer disk sizeLimit (arguments.contains CommandLine.jsonFlag) path1 path2

/-- A standard output prints the characters that it takes and fails at any other. -/
def print (takes : Char → Bool) (outcome : CommandLine.Outcome) : Attempt CommandLine.Outcome :=
  if outcome.output.toList.all takes then .ok outcome else .error .unwritable

/-- A run with a standard output that takes some characters. -/
def run (disk : Disk) (takes : Char → Bool) (sizeLimit : Int) (arguments : List String)
    : Attempt CommandLine.Outcome := do
  print takes (← outcome disk sizeLimit arguments)

/-- A standard output takes all characters that a run has to print. -/
def TakesOutput (disk : Disk) (takes : Char → Bool) (sizeLimit : Int) (arguments : List String)
    : Prop :=
  ∀ ending, outcome disk sizeLimit arguments = .ok ending → ending.output.toList.all takes

theorem lines_eq {comparison : Comparison} (fits1 : comparison.file1.size < Binary64.overflow)
    (fits2 : comparison.file2.size < Binary64.overflow)
    : lines comparison = .ok (Report.lines comparison) := by
  simp only [lines, fileLines, sizeText_eq fits1, sizeText_eq fits2]
  rfl

theorem report_eq {comparison : Comparison} (fits1 : comparison.file1.size < Binary64.overflow)
    (fits2 : comparison.file2.size < Binary64.overflow) (asJson : Bool) (path1 path2 : String)
    : report asJson path1 path2 comparison
      = .ok (CommandLine.report asJson path1 path2 comparison) := by
  simp only [report, lines_eq fits1 fits2]
  cases asJson with
  | false | true => rfl

section Runs

variable {disk : Disk} {takes : Char → Bool} {sizeLimit : Int} {arguments : List String}
  {path1 path2 : String}

theorem TakesOutput.of_outcome {ending : CommandLine.Outcome}
    (ends : outcome disk sizeLimit arguments = .ok ending)
    (printable : ending.output.toList.all takes)
    : TakesOutput disk takes sizeLimit arguments := by
  intro other found
  obtain rfl := Except.ok.inj (ends.symm.trans found)
  exact printable

theorem outcome_of_paths (twoPaths : CommandLine.paths arguments = [path1, path2])
    : outcome disk sizeLimit arguments
      = answer disk sizeLimit (arguments.contains CommandLine.jsonFlag) path1 path2 := by
  simp only [outcome, twoPaths]
  rfl

theorem outcome_eq_usage (notTwo : (CommandLine.paths arguments).length ≠ 2)
    : outcome disk sizeLimit arguments = .ok (.failure CommandLine.usage) :=
  if_pos notTwo

theorem outcome_eq_success {comparison : Comparison} (fits : disk.tree.SizesFit)
    (nonneg : 0 ≤ sizeLimit) (twoPaths : CommandLine.paths arguments = [path1, path2])
    (compared : compareFiles disk sizeLimit path1 path2 = .ok comparison)
    : outcome disk sizeLimit arguments
      = .ok
        (.success
          (CommandLine.report (arguments.contains CommandLine.jsonFlag) path1 path2
            comparison)) := by
  obtain ⟨fits1, fits2⟩ := sizes_lt_overflow fits nonneg compared
  simp only [outcome_of_paths twoPaths, answer, compared, report_eq fits1 fits2]
  rfl

theorem outcome_eq_failure {fault : Fault} {message : String}
    (twoPaths : CommandLine.paths arguments = [path1, path2])
    (compared : compareFiles disk sizeLimit path1 path2 = .error fault)
    (caught : fault.caught? = some message)
    : outcome disk sizeLimit arguments = .ok (.failure ("Error: " ++ message)) := by
  simp only [outcome_of_paths twoPaths, answer, compared, caught]

theorem outcome_eq_error {fault : Fault}
    (twoPaths : CommandLine.paths arguments = [path1, path2])
    (compared : compareFiles disk sizeLimit path1 path2 = .error fault)
    (uncaught : fault.caught? = none)
    : outcome disk sizeLimit arguments = .error fault := by
  simp only [outcome_of_paths twoPaths, answer, compared, uncaught]

/-- A run ends with what it has to print if the standard output takes it. -/
theorem run_eq_ok {outcome : CommandLine.Outcome}
    (ends : Attempt.outcome disk sizeLimit arguments = .ok outcome)
    (printable : outcome.output.toList.all takes)
    : run disk takes sizeLimit arguments = .ok outcome := by
  rw [run, ends]
  exact if_pos printable

/-- A fault that is not caught ends the run. -/
theorem run_eq_error {fault : Fault}
    (ends : Attempt.outcome disk sizeLimit arguments = .error fault)
    : run disk takes sizeLimit arguments = .error fault := by
  rw [run, ends]
  rfl

end Runs

-----------------------------------------------------------------------------------------
-- Trees without links
-----------------------------------------------------------------------------------------

/-- Without links, requests and runs in steps come to what the total functions say on the tree. -/
structure ComesTo (tree : FileTree) (sizeLimit : Int) : Prop where
  compareListed (path1 path2 : String) (listing : Int)
    : Attempt.compareListed (.ofTree tree) sizeLimit path1 path2 listing
      = (tree.compareListed sizeLimit path1 path2 listing).mapError RequestError.fault
  inspectFile (path : String)
    : Attempt.inspectFile (.ofTree tree) sizeLimit path
      = (tree.inspect sizeLimit path).mapError LoadError.fault
  outcome (arguments : List String)
    : Attempt.outcome (.ofTree tree) sizeLimit arguments
      = .ok (CommandLine.run tree sizeLimit arguments)

/-- Every request and run on a tree without links comes to what the total functions say. -/
theorem comesTo {tree : FileTree} {sizeLimit : Int} (fits : tree.SizesFit)
    (nonneg : 0 ≤ sizeLimit)
    : ComesTo tree sizeLimit where
  compareListed path1 path2 listing := by
    rcases Int.lt_or_le listing 0 with negative | valid
    · rw [Attempt.compareListed, FileTree.compareListed, if_pos negative, if_pos negative]
      rfl
    · obtain ⟨listing, rfl⟩ := Int.eq_ofNat_of_zero_le valid
      have ends := compareFiles_ofTree fits nonneg path1 path2
      rw [FileTree.compareListed, if_neg (Int.not_lt.mpr valid)]
      cases compared : tree.compare sizeLimit path1 path2 with
      | error error =>
          rw [compared] at ends
          exact compareListed_of_error ends listing
      | ok comparison =>
          rw [compared] at ends
          exact compareListed_of_ok fits nonneg ends listing
  inspectFile path := by
    have ends := load_ofTree fits nonneg path
    rw [FileTree.inspect]
    cases loaded : tree.load sizeLimit path with
    | error error =>
        rw [loaded] at ends
        exact inspectFile_of_error ends
    | ok file =>
        rw [loaded] at ends
        exact inspectFile_of_ok fits nonneg ends
  outcome arguments := by
    by_cases two : (CommandLine.paths arguments).length = 2
    · obtain ⟨path1, path2, twoPaths⟩ := List.length_eq_two.mp two
      have ends := compareFiles_ofTree fits nonneg path1 path2
      cases compared : tree.compare sizeLimit path1 path2 with
      | error error =>
          rw [compared] at ends
          rw [outcome_eq_failure twoPaths ends error.caught?_fault,
            CommandLine.run_eq_failure twoPaths compared]
      | ok comparison =>
          rw [compared] at ends
          rw [outcome_eq_success fits nonneg twoPaths ends]
          simp only [CommandLine.run, twoPaths, compared]
    · rw [outcome_eq_usage two, CommandLine.run_eq_usage two]

-----------------------------------------------------------------------------------------
-- Links to a file and to themselves
-----------------------------------------------------------------------------------------

/-- Whether a standard output for ASCII takes a character. -/
def takesAscii (c : Char) : Bool := c.toNat < 0x80

end Attempt

theorem CommandLine.sizesFit_twoFiles : twoFiles.SizesFit := by
  apply FileTree.sizesFit_of_lt
  rintro path content (_ | ⟨found, within⟩)
  rw [List.lookup_cons] at found
  split at found
  · cases found
    cases within
    exact (show 2 < 2 ^ 64 by decide)
  · rw [List.lookup_cons] at found
    split at found
    · cases found
      cases within
      exact (show 0 < 2 ^ 64 by decide)
    · cases found

namespace Disk

/-- A directory with two files and a link to the empty one. -/
def linkedFiles : Disk where
  tree := CommandLine.twoFiles
  links := [(["l"], "b")]
  linkDepth := 1

/-- A directory with two files and a link to itself. -/
def selfLink : Disk where
  tree := CommandLine.twoFiles
  links := [(["l"], "l")]
  linkDepth := 900

theorem resolve?_selfLink : selfLink.resolve? "l" = none :=
  walk_eq_none_of_selfLink (by decide) (by decide) (by decide) 900

end Disk

/-- A comparison of a link to itself has a fault that is not caught, whatever the standard output
takes.
-/
theorem Attempt.run_selfLink (takes : Char → Bool) (sizeLimit : Int) {arguments : List String}
    (twoPaths : CommandLine.paths arguments = ["l", "b"])
    : run .selfLink takes sizeLimit arguments = .error .tooManyLinks :=
  run_eq_error
    (outcome_eq_error twoPaths
      (compareFiles_of_error1 (load_of_unresolved Disk.resolve?_selfLink)) rfl)

end Bytewise

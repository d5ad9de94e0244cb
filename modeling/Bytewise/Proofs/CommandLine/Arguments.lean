import Bytewise.Proofs.Faults.Run

/-! The arguments of a run. The flag may stand anywhere and any number of times: what a run prints
and the code it exits with are decided by whether it is there and by what is left without it. A run
succeeds on two files that can be loaded. It ends with an outcome unless links are in a loop or the
standard output does not take what is printed.
-/

namespace Bytewise

namespace CommandLine

-----------------------------------------------------------------------------------------
-- Arguments without the flag
-----------------------------------------------------------------------------------------

/-- What arguments leave in their order when each occurrence of the flag is taken out. -/
inductive Leaves : (arguments rest : List String) → Prop
  | nil : Leaves [] []
  | flag {arguments rest} (behind : Leaves arguments rest) : Leaves (jsonFlag :: arguments) rest
  | kept {argument arguments rest} (notFlag : argument ≠ jsonFlag)
    (behind : Leaves arguments rest)
    : Leaves (argument :: arguments) (argument :: rest)

theorem paths_cons_of_ne {argument : String} (notFlag : argument ≠ jsonFlag)
    (arguments : List String)
    : paths (argument :: arguments) = argument :: paths arguments :=
  List.filter_cons_of_pos (bne_iff_ne.mpr notFlag)

/-- The paths are what is left and nothing else is, by induction on the arguments and on how they
leave it.
-/
theorem leaves_iff {arguments rest : List String}
    : Leaves arguments rest ↔ paths arguments = rest := by
  constructor
  · intro leaves
    induction leaves with
    | nil => rfl
    | flag _ ih => exact ih
    | kept notFlag _ ih => rw [paths_cons_of_ne notFlag, ih]
  · rintro rfl
    induction arguments with
    | nil => exact .nil
    | cons argument arguments ih =>
        by_cases isFlag : argument = jsonFlag
        · subst isFlag
          exact .flag ih
        · rw [paths_cons_of_ne isFlag]
          exact .kept isFlag ih

/-- The flag is found in both of two lists or in none of them. -/
theorem contains_jsonFlag_eq {arguments others : List String}
    (sameFlag : jsonFlag ∈ arguments ↔ jsonFlag ∈ others)
    : arguments.contains jsonFlag = others.contains jsonFlag := by
  rw [Bool.eq_iff_iff, List.contains_iff_mem, List.contains_iff_mem, sameFlag]

/-- A run sees of its arguments only whether the flag is there and what is left without it. -/
theorem run_congr (tree : FileTree) (sizeLimit : Int) {arguments others : List String}
    (samePaths : paths arguments = paths others)
    (sameFlag : jsonFlag ∈ arguments ↔ jsonFlag ∈ others)
    : run tree sizeLimit arguments = run tree sizeLimit others := by
  rw [run, run, samePaths, contains_jsonFlag_eq sameFlag]

/-- So does a run in steps, also of those that end with a fault. -/
theorem attemptRun_congr (disk : Disk) (takes : Char → Bool) (sizeLimit : Int)
    {arguments others : List String} (samePaths : paths arguments = paths others)
    (sameFlag : jsonFlag ∈ arguments ↔ jsonFlag ∈ others)
    : Attempt.run disk takes sizeLimit arguments = Attempt.run disk takes sizeLimit others := by
  rw [Attempt.run, Attempt.run, Attempt.outcome, Attempt.outcome, samePaths,
    contains_jsonFlag_eq sameFlag]

-----------------------------------------------------------------------------------------
-- Exit codes
-----------------------------------------------------------------------------------------

/-- Two arguments are left without the flag, and both lead to files that can be loaded. -/
def NamesTwoFiles (disk : Disk) (sizeLimit : Int) (arguments : List String) : Prop :=
  ∃ path1 path2,
    Leaves arguments [path1, path2]
    ∧ disk.IsLoadable sizeLimit path1
    ∧ disk.IsLoadable sizeLimit path2

/-- A run exits with 0 on two files that can be loaded, and with 1 otherwise. -/
structure ExitsBy (filesNamed : Prop) (outcome : Outcome) : Prop where
  success : outcome.exitCode = 0 ↔ filesNamed
  failure : outcome.exitCode = 1 ↔ ¬ filesNamed

theorem ExitsBy.of_success {filesNamed : Prop} (named : filesNamed) (output : String)
    : ExitsBy filesNamed (.success output) where
  success := iff_of_true rfl named
  failure := iff_of_false (show ¬ (0 : UInt32) = 1 by decide) (not_not_intro named)

theorem ExitsBy.of_failure {filesNamed : Prop} (notNamed : ¬ filesNamed) (line : String)
    : ExitsBy filesNamed (.failure line) where
  success := iff_of_false (exitCode_failure_ne line) notNamed
  failure := iff_of_true rfl notNamed

/-- The spellings that a run with some arguments follows lead somewhere. -/
def FollowsResolving (disk : Disk) (sizeLimit : Int) (arguments : List String) : Prop :=
  ∀ path1 path2,
    Leaves arguments [path1, path2]
    → ∀ path, disk.LooksAt sizeLimit path1 path2 path → disk.Resolves path

theorem FollowsResolving.of_paths {disk : Disk} {sizeLimit : Int} {arguments : List String}
    {path1 path2 : String} (twoPaths : paths arguments = [path1, path2])
    (resolves1 : disk.Resolves path1) (resolves2 : disk.Resolves path2)
    : FollowsResolving disk sizeLimit arguments := by
  intro other1 other2 left path looks
  cases twoPaths.symm.trans (leaves_iff.mp left)
  exact looks.resolves resolves1 resolves2

/-- Two paths that lead somewhere are compared, and no comparison is made without two paths. -/
theorem exists_outcome_exitsBy {disk : Disk} {sizeLimit : Int} (fits : disk.tree.SizesFit)
    (nonneg : 0 ≤ sizeLimit) {arguments : List String}
    (resolving : FollowsResolving disk sizeLimit arguments)
    : ∃ ending,
        Attempt.outcome disk sizeLimit arguments = .ok ending
        ∧ ExitsBy (NamesTwoFiles disk sizeLimit arguments) ending := by
  by_cases two : (paths arguments).length = 2
  · obtain ⟨path1, path2, twoPaths⟩ := List.length_eq_two.mp two
    have leaves := leaves_iff.mpr twoPaths
    rcases Attempt.compareFiles_cases fits nonneg path1 path2 with
      ⟨file1, file2, loaded1, loaded2, compared⟩ | ⟨fault, refused, compared⟩
    · refine ⟨_, Attempt.outcome_eq_success fits nonneg twoPaths compared, .of_success ?_ _⟩
      exact ⟨path1, path2, leaves,
        (Attempt.isLoadable_iff fits nonneg).mpr ⟨file1, loaded1⟩,
        (Attempt.isLoadable_iff fits nonneg).mpr ⟨file2, loaded2⟩⟩
    · obtain ⟨message, caught⟩ :=
        Attempt.caught?_of_refusedWith fits nonneg (resolving _ _ leaves) refused
      refine ⟨_, Attempt.outcome_eq_failure twoPaths compared caught, .of_failure ?_ _⟩
      rintro ⟨other1, other2, left, loadable⟩
      cases twoPaths.symm.trans (leaves_iff.mp left)
      exact Attempt.not_isLoadable_of_refusedWith fits nonneg refused loadable
  · refine ⟨_, Attempt.outcome_eq_usage two, .of_failure ?_ _⟩
    rintro ⟨path1, path2, left, -⟩
    exact two (List.length_eq_two.mpr ⟨path1, path2, leaves_iff.mp left⟩)

/-- What is printed about an empty file that is compared with itself through a link. -/
def linkedReport : String :=
  "--- Comparing l and b ---\n\n"
    ++ "File 1: b (0 Bytes)\n  Type: Binary Data\n  Hash: 00000000\n"
    ++ "File 2: b (0 Bytes)\n  Type: Binary Data\n  Hash: 00000000\n\n"
    ++ "Size match: yes\nSimilarity: 100.00%\nDifferences: 0\n"

end CommandLine

end Bytewise

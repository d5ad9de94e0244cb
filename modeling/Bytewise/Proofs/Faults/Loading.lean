import Bytewise.Proofs.Decimal.TiesToEven
import Bytewise.Proofs.Faults.Inspection
import Bytewise.Proofs.FileTree.Links
import Bytewise.Proofs.FileTree.Loading

/-! Loading in steps that can fail, from a disk with links. A spelling leads nowhere when links are
in a loop, which is a fault that is not caught. Wherever it leads somewhere, a file is refused with
a fault that is caught and that tells why.
-/

namespace Bytewise

/-- The text that is printed for a fault of a comparison, absent for the faults that are not caught.
-/
def Fault.caught? : Fault → Option String
  | .missingFile text => some text
  | .invalidValue text => some text
  | _ => none

/-- The fault that a file is refused with. -/
def LoadError.fault : LoadError → Fault
  | .notFound path => .missingFile (notFound path).message
  | .notRegular path => .invalidValue (notRegular path).message
  | .tooLarge size limit => .invalidValue (tooLarge size limit).message

/-- Every refusal is told. -/
theorem LoadError.caught?_fault (error : LoadError)
    : error.fault.caught? = some error.message := by
  cases error with
  | notFound path | notRegular path | tooLarge size limit => rfl

theorem LoadError.mapError_fault_eq_ok_iff {α : Type} {loaded : Except LoadError α} {value : α}
    : loaded.mapError fault = .ok value ↔ loaded = .ok value := by
  cases loaded with
  | error error => exact ⟨nofun, nofun⟩
  | ok other =>
      constructor
      · rintro ⟨⟩
        rfl
      · rintro ⟨⟩
        rfl

/-- Every fault of a refusal is told. -/
theorem LoadError.caught?_of_mapError_fault {α : Type} {loaded : Except LoadError α}
    {failure : Fault} (failed : loaded.mapError fault = .error failure)
    : ∃ message, failure.caught? = some message := by
  cases loaded with
  | error error =>
      cases failed
      exact ⟨error.message, error.caught?_fault⟩
  | ok value => cases failed

/-- No file's size is too large for the binary format. -/
def FileTree.SizesFit (tree : FileTree) : Prop :=
  ∀ path content, tree.root.Holds path (.file content) → content.size < Binary64.overflow

/-- Sizes of 64 bits, which file systems store, are far from being too large. -/
theorem FileTree.sizesFit_of_lt {tree : FileTree}
    (stored : ∀ path content, tree.root.Holds path (.file content) → content.size < 2 ^ 64)
    : tree.SizesFit :=
  fun path content held =>
    (stored path content held).trans (show 2 ^ 64 < Binary64.overflow by decide +kernel)

namespace Disk

/-- A spelling leads somewhere: its links are in no loop and not nested too deeply. -/
def Resolves (disk : Disk) (spelling : String) : Prop :=
  ∃ path, disk.resolve? spelling = some path

/-- A spelling leads to a file that is not larger than the limit. -/
def IsLoadable (disk : Disk) (limit : Int) (spelling : String) : Prop :=
  ∃ path content,
    disk.resolve? spelling = some path
    ∧ disk.tree.root.Holds path (.file content)
    ∧ content.size ≤ limit

/-- The spellings that are followed for a comparison: the first one, and the second one if the first
leads to a file that can be loaded.
-/
inductive LooksAt (disk : Disk) (limit : Int) (path1 path2 : String) : String → Prop
  | first : LooksAt disk limit path1 path2 path1
  | second (loadable : disk.IsLoadable limit path1) : LooksAt disk limit path1 path2 path2

theorem LooksAt.resolves {disk : Disk} {limit : Int} {path1 path2 path : String}
    (looks : disk.LooksAt limit path1 path2 path) (resolves1 : disk.Resolves path1)
    (resolves2 : disk.Resolves path2)
    : disk.Resolves path := by
  cases looks with
  | first => exact resolves1
  | second _ => exact resolves2

end Disk

namespace Attempt

-----------------------------------------------------------------------------------------
-- Sizes that are told
-----------------------------------------------------------------------------------------

/-- An integer over 1024, which may be too large. -/
def kilobytes (size : Int) : Attempt Binary64 :=
  let quotient := Binary64.nearest (size < 0) ⟨size.natAbs, 1024⟩
  if quotient.inRange then .ok quotient else .error .overflow

/-- An integer over 1024, and what is found for it over 1024 once more. -/
def megabytes (size : Int) : Attempt Binary64 := do
  let quotient ← kilobytes size
  return .nearest quotient.negative (quotient.magnitude.scale 2 (-10))

theorem kilobytes_eq {size : Nat} (fits : size < Binary64.overflow)
    : kilobytes size = .ok (.nearest false ⟨size, 1024⟩) := by
  have pos : 0 < (⟨size, 1024⟩ : Fraction).den := Nat.succ_pos 1023
  have below : (Binary64.nearest false ⟨size, 1024⟩).value ≤ (Binary64.ofInt size).value := by
    rw [Binary64.ofInt_natCast]
    apply Binary64.value_nearest_le_value_nearest pos Nat.one_pos
    rw [Fraction.value_ofNat, Fraction.value]
    exact div_le_self (Nat.cast_nonneg size) (by norm_num)
  have inRange : (Binary64.nearest false ⟨size, 1024⟩).inRange := by
    rw [Binary64.inRange_iff (Binary64.nearest_isNormal pos false),
      abs_of_nonneg (Binary64.value_nonneg (Binary64.negative_nearest ..))]
    exact below.trans_lt (Binary64.value_ofInt_lt_of_lt fits)
  rw [kilobytes, Binary64.decide_natCast_neg, Int.natAbs_natCast]
  exact if_pos inRange

/-- The least size with a quotient that is too large. -/
example
    : kilobytes (Binary64.overflow * 1024) = .error .overflow
      ∧ (kilobytes (Binary64.overflow * 1024 - 1)).isOk := by
  decide +kernel

/-- Dividing twice comes to dividing once by the product, since it is a power of two. -/
theorem megabytes_eq {size : Nat} (fits : size < Binary64.overflow)
    : megabytes size = .ok (LoadError.megabytes size) := by
  have pos : 0 < (⟨size, 1024⟩ : Fraction).den := Nat.succ_pos 1023
  have scaled : (⟨size, 1024⟩ : Fraction).scale 2 (-10) = ⟨size, 1024 * 1024⟩ := by
    simp [Fraction.scale]
  rw [megabytes, kilobytes_eq fits, LoadError.megabytes, Binary64.decide_natCast_neg,
    Int.natAbs_natCast, ← scaled, ← Binary64.nearest_scale_nearest pos]
  show Except.ok _ = _
  rw [Binary64.negative_nearest]

-----------------------------------------------------------------------------------------
-- Loading
-----------------------------------------------------------------------------------------

/-- The fault that a file is refused with, for which its size may have to be told. -/
def refuse {α : Type} : LoadError → Attempt α
  | .notFound path => .error (.missingFile ("File not found: " ++ path.text))
  | .notRegular path => .error (.invalidValue ("Not a regular file: " ++ path.text))
  | .tooLarge size limit => do
      let size ← megabytes size
      let limit ← megabytes limit
      .error
        (.invalidValue
          ("File too large (" ++ size.fixed 1 ++ " MB). Limit is " ++ limit.fixed 0 ++ " MB."))

def loadAt (tree : FileTree) (limit : Int) (path : Path) : Attempt NamedBuffer :=
  match tree.loadAt limit path with
  | .ok file => .ok file
  | .error error => refuse error

def load (disk : Disk) (limit : Int) (spelling : String) : Attempt NamedBuffer := do
  let path ← present .tooManyLinks (disk.resolve? spelling)
  loadAt disk.tree limit path

/-- A refused size and the limit below it are told. -/
theorem refuse_tooLarge {α : Type} {size : Nat} {limit : Int} (fits : size < Binary64.overflow)
    (nonneg : 0 ≤ limit) (exceeds : limit < size)
    : (refuse (.tooLarge size limit) : Attempt α)
      = .error (LoadError.tooLarge size limit).fault := by
  obtain ⟨limit, rfl⟩ := Int.eq_ofNat_of_zero_le nonneg
  have limitFits : limit < Binary64.overflow := by omega
  simp only [refuse, megabytes_eq fits, megabytes_eq limitFits]
  rfl

/-- Loading from a path fails with the fault of its refusal and no other one. -/
theorem loadAt_eq {tree : FileTree} {limit : Int} (fits : tree.SizesFit) (nonneg : 0 ≤ limit)
    (path : Path)
    : loadAt tree limit path = (tree.loadAt limit path).mapError LoadError.fault := by
  have loads := tree.loadsTo_loadAt limit path
  rw [loadAt]
  generalize tree.loadAt limit path = outcome at loads ⊢
  cases loads with
  | missing absent | directory found | admissible found within named => rfl
  | large found exceeds => exact refuse_tooLarge (fits _ _ found) nonneg exceeds

variable {disk : Disk} {limit : Int} {spelling : String} {path : Path}

theorem load_of_resolve? (resolved : disk.resolve? spelling = some path)
    : load disk limit spelling = loadAt disk.tree limit path := by
  rw [load, resolved]
  rfl

theorem load_of_unresolved (unresolved : disk.resolve? spelling = none)
    : load disk limit spelling = .error .tooManyLinks := by
  rw [load, unresolved]
  rfl

/-- Without links, a spelling is loaded as the tree alone says. -/
theorem load_ofTree {tree : FileTree} (fits : tree.SizesFit) (nonneg : 0 ≤ limit)
    (spelling : String)
    : load (.ofTree tree) limit spelling
      = (tree.load limit spelling).mapError LoadError.fault := by
  rw [load_of_resolve? (Disk.resolve?_ofTree tree spelling)]
  exact loadAt_eq fits nonneg _

variable (fits : disk.tree.SizesFit) (nonneg : 0 ≤ limit)
include fits nonneg

/-- What is loaded from a disk is a file of its tree, under the last name of where it is. -/
theorem load_eq_ok_iff (file : NamedBuffer)
    : load disk limit spelling = .ok file
      ↔ ∃ path,
        disk.resolve? spelling = some path
        ∧ disk.tree.root.Holds path (.file file.content)
        ∧ file.content.size ≤ limit
        ∧ path.EndsIn file.name := by
  cases resolved : disk.resolve? spelling with
  | none =>
      rw [load_of_unresolved resolved]
      constructor
      · rintro ⟨⟩
      · rintro ⟨path, ⟨⟩, _⟩
  | some path =>
      rw [load_of_resolve? resolved, loadAt_eq fits nonneg, LoadError.mapError_fault_eq_ok_iff,
        (disk.tree.loadsTo_loadAt limit path).eq_ok_iff]
      constructor
      · exact fun held => ⟨path, rfl, held⟩
      · rintro ⟨other, ⟨⟩, held⟩
        exact held

theorem isLoadable_iff
    : disk.IsLoadable limit spelling ↔ ∃ file, load disk limit spelling = .ok file := by
  constructor
  · rintro ⟨path, content, resolved, held, within⟩
    refine ⟨⟨path.name, content⟩, (load_eq_ok_iff fits nonneg _).mpr ?_⟩
    exact ⟨path, resolved, held, within, (Path.endsIn_iff ..).mpr rfl⟩
  · rintro ⟨file, loaded⟩
    obtain ⟨path, resolved, held, within, -⟩ := (load_eq_ok_iff fits nonneg file).mp loaded
    exact ⟨path, file.content, resolved, held, within⟩

/-- A file that is loaded is one of the tree. -/
theorem size_lt_overflow {file : NamedBuffer} (loaded : load disk limit spelling = .ok file)
    : file.content.size < Binary64.overflow := by
  obtain ⟨path, -, held, -⟩ := (load_eq_ok_iff fits nonneg file).mp loaded
  exact fits _ _ held

/-- Where a spelling leads somewhere, the fault of loading from there is caught. -/
theorem caught?_of_load {fault : Fault} (resolves : disk.Resolves spelling)
    (failed : load disk limit spelling = .error fault)
    : ∃ message, fault.caught? = some message := by
  obtain ⟨path, resolved⟩ := resolves
  rw [load_of_resolve? resolved, loadAt_eq fits nonneg] at failed
  exact LoadError.caught?_of_mapError_fault failed

end Attempt

end Bytewise

import Bytewise.FileTree

/-! A tree of files with symbolic links. A spelling is followed segment by segment, and a link that
is met is replaced by what its own spelling leads to. Links can be followed inside one another up to
some depth only, so that a loop of them leads nowhere.
-/

namespace Bytewise

/-- A tree of files together with symbolic links. -/
structure Disk where
  tree : FileTree
  /-- The spellings that are stored in the links at some paths. -/
  links : List (Path × String)
  /-- How many links can be followed inside one another. -/
  linkDepth : Nat

namespace Disk

/-- A tree of files without links. -/
def ofTree (tree : FileTree) : Disk where
  tree
  links := []
  linkDepth := 0

/-- The spelling that a link stores which has the last name of a path, if a link is there. -/
def link? (disk : Disk) (path : Path) (segment : String) : Option String :=
  if Path.isName segment then disk.links.lookup (path.follow segment) else none

/-- The path after one more segment, given where links lead. -/
def step (disk : Disk) (lead? : Path → String → Option Path) (path : Path) (segment : String)
    : Option Path :=
  match disk.link? path segment with
  | some spelling => lead? path spelling
  | none => some (path.follow segment)

/-- The path after all segments of a spelling, given where links lead. -/
def walk (disk : Disk) (lead? : Path → String → Option Path) (directory : Path)
    (spelling : String)
    : Option Path :=
  (Path.segments spelling).foldlM (disk.step lead?) (Path.start directory spelling)

/-- The path that the spelling of a link leads to in a directory, with no more than some number of
links followed inside one another.
-/
def follow? (disk : Disk) : (depth : Nat) → Path → String → Option Path
  | 0 => fun _ _ => none
  | depth + 1 => disk.walk (disk.follow? depth)

/-- The path that a spelling stands for, absent when links are nested too deeply on the way. -/
def resolve? (disk : Disk) (spelling : String) : Option Path :=
  disk.walk (disk.follow? disk.linkDepth) disk.tree.workingDirectory spelling

end Disk

end Bytewise

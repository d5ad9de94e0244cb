import Bytewise.Buffer.Named
import Bytewise.Decimal.Binary64
import Bytewise.Path

/-! A tree of files without symbolic links, and the loading of a file from it. A file is admissible
when its path leads to a regular file no larger than a limit. Names and spellings are texts of
Unicode characters that the file system takes: there are none with a NUL in them, none too long, and
none of bytes that are no text.
-/

namespace Bytewise

/-- A file or a directory. There are no symbolic links among the entries of a directory. -/
inductive Node where
  | file (content : Buffer)
  | directory (entries : List (String × Node))

namespace Node

/-- The node at a path below this one. -/
def find? : Node → Path → Option Node
  | node, [] => some node
  | .file _, _ :: _ => none
  | .directory entries, name :: rest =>
      (entries.lookup name).bind (fun entry => entry.find? rest)

/-- The entries with one of a given name added or replaced. -/
def setEntry (entries : List (String × Node)) (name : String) (node : Node)
    : List (String × Node) :=
  (name, node) :: entries.filter (fun entry => entry.1 != name)

/-- The tree with a node put at a path, and directories on the way to it. A directory does not
replace one that is there.
-/
def insert (tree : Node) (leaf : Node) : Path → Node
  | [] =>
      match tree, leaf with
      | .directory entries, .directory [] => .directory entries
      | _, leaf => leaf
  | name :: rest =>
      let entries :=
        match tree with
        | .directory entries => entries
        | .file _ => []
      let below := (entries.lookup name).getD (.directory [])
      .directory (setEntry entries name (below.insert leaf rest))

end Node

/-- A tree of files without symbolic links, and the directory that relative paths start from. -/
structure FileTree where
  workingDirectory : Path
  root : Node

/-- Why a file cannot be loaded. -/
inductive LoadError where
  | notFound (path : Path)
  | notRegular (path : Path)
  | tooLarge (size : Nat) (limit : Int)
deriving DecidableEq, Repr

namespace LoadError

/-- A number of bytes in units of `2 ^ 20`, rounded to a floating-point number. -/
def megabytes (size : Int) : Binary64 :=
  .nearest (size < 0) ⟨size.natAbs, 1024 * 1024⟩

def message : LoadError → String
  | .notFound path => "File not found: " ++ path.text
  | .notRegular path => "Not a regular file: " ++ path.text
  | .tooLarge size limit =>
      "File too large (" ++ (megabytes size).fixed 1 ++ " MB). Limit is "
        ++ (megabytes limit).fixed 0 ++ " MB."

end LoadError

def defaultSizeLimit : Int := 100 * 1024 * 1024

namespace FileTree

/-- The path that a spelling stands for. Without links, the spelling alone decides it. -/
def resolve (tree : FileTree) (spelling : String) : Path :=
  Path.resolve tree.workingDirectory spelling

/-- The content of the file at a path, if it is admissible. -/
def contentAt (tree : FileTree) (limit : Int) (path : Path) : Except LoadError Buffer :=
  match tree.root.find? path with
  | none => .error (.notFound path)
  | some (.directory _) => .error (.notRegular path)
  | some (.file content) =>
      if limit < content.size then .error (.tooLarge content.size limit) else .ok content

/-- The resolved path of an admissible file. -/
def validate (tree : FileTree) (limit : Int) (spelling : String) : Except LoadError Path :=
  (tree.contentAt limit (tree.resolve spelling)).map (fun _ => tree.resolve spelling)

/-- The content of an admissible file at a path, under the path's last name. -/
def loadAt (tree : FileTree) (limit : Int) (path : Path) : Except LoadError NamedBuffer :=
  (tree.contentAt limit path).map (fun content => { name := path.name, content })

/-- The content of an admissible file under the last name of its resolved path. -/
def load (tree : FileTree) (limit : Int) (spelling : String)
    : Except LoadError NamedBuffer :=
  tree.loadAt limit (tree.resolve spelling)

end FileTree

end Bytewise

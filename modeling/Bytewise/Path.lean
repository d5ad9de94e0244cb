/-! Absolute paths, and the reading of path spellings. Spellings are resolved by their text alone:
`x/..` cancels whatever `x` is, and nothing lies above the root.
-/

namespace Bytewise

/-- The names from the root down to a file or directory. -/
abbrev Path := List String

namespace Path

/-- The parts of a text between slashes; one more than there are slashes. -/
def splitSlashes : List Char → List (List Char)
  | [] => [[]]
  | c :: rest =>
      if c = '/' then
        [] :: splitSlashes rest
      else
        match splitSlashes rest with
        | [] => [[c]]
        | part :: parts => (c :: part) :: parts

/-- The segments of a spelling, empty ones included. -/
def segments (spelling : String) : List String :=
  (splitSlashes spelling.toList).map String.ofList

/-- The path after one more segment. Empty segments and `.` stay, `..` goes up. -/
def follow (path : Path) (segment : String) : Path :=
  if segment = "" ∨ segment = "." then path
  else if segment = ".." then path.dropLast
  else path ++ [segment]

/-- Whether a segment is looked up in a directory. -/
def isName (segment : String) : Bool :=
  segment ≠ "" && segment ≠ "." && segment ≠ ".."

def isAbsolute (spelling : String) : Bool :=
  spelling.toList.head? == some '/'

/-- Where a spelling is followed from in a directory. -/
def start (directory : Path) (spelling : String) : Path :=
  if isAbsolute spelling then [] else directory

/-- The path that a spelling stands for in a directory. -/
def resolve (directory : Path) (spelling : String) : Path :=
  (segments spelling).foldl follow (start directory spelling)

def text (path : Path) : String :=
  "/" ++ "/".intercalate path

/-- The last name of a path; the root has an empty one. -/
def name (path : Path) : String :=
  path.getLast?.getD ""

end Path

end Bytewise

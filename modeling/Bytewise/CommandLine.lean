import Bytewise.Json.Printer
import Bytewise.Report.Plain
import Bytewise.Request

/-! The command line: two paths, and a flag at any place for a report in JSON. Arguments are texts
of Unicode characters, and whatever is to be printed can be.
-/

namespace Bytewise.CommandLine

def jsonFlag : String := "--json"

/-- What is printed when the number of paths is not two. -/
def usage : String := "Usage: python main.py <file1> <file2> [--json]"

/-- What a run prints and the code it exits with. -/
structure Outcome where
  exitCode : UInt32
  output : String
deriving DecidableEq, Repr

/-- A run that prints some text and succeeds. -/
def Outcome.success (output : String) : Outcome := ⟨0, output⟩

/-- A run that prints one line and fails. -/
def Outcome.failure (line : String) : Outcome := ⟨1, line ++ "\n"⟩

def paths (arguments : List String) : List String :=
  arguments.filter (· != jsonFlag)

/-- The paths of the files that a run looks at: none unless there are two. -/
def wanted (arguments : List String) : List String :=
  if (paths arguments).length = 2 then paths arguments else []

/-- The report on the comparison of two files, which are headed by the paths as given. -/
def report (asJson : Bool) (path1 path2 : String) (comparison : Comparison) : String :=
  if asJson then
    comparison.toJson.render ++ "\n"
  else
    Report.ofLines
      (["--- Comparing " ++ path1 ++ " and " ++ path2 ++ " ---", ""]
        ++ Report.lines comparison)

/-- What a run with some arguments does on a tree of files. -/
def run (tree : FileTree) (sizeLimit : Int) (arguments : List String) : Outcome :=
  match paths arguments with
  | [path1, path2] =>
      match tree.compare sizeLimit path1 path2 with
      | .ok comparison =>
          .success (report (arguments.contains jsonFlag) path1 path2 comparison)
      | .error error => .failure ("Error: " ++ error.message)
  | _ => .failure usage

end Bytewise.CommandLine

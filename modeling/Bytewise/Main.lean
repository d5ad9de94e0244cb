import Bytewise.CommandLine

/-! The program: it reads the wanted files from the disk into a tree and runs the command line on
that. No symbolic links are expected on the way to the files.
-/

namespace Bytewise.CommandLine

/-- The tree with what the disk holds at a path, if it holds anything there. -/
def readInto (root : Node) (path : Path) : IO Node := do
  let location := (← IO.currentDir).join path.text
  if ← location.isDir then
    return root.insert (.directory []) path
  else if ← location.pathExists then
    return root.insert (.file (← IO.FS.readBinFile location).data) path
  else
    return root

end Bytewise.CommandLine

open Bytewise Bytewise.CommandLine in
/-- Compares the files that the arguments name. -/
def main (arguments : List String) : IO UInt32 := do
  let workingDirectory := Path.resolve [] (← IO.currentDir).toString
  let locations := (wanted arguments).map (Path.resolve workingDirectory)
  let root ← locations.foldlM readInto (.directory [])
  let outcome := run { workingDirectory, root } defaultSizeLimit arguments
  IO.print outcome.output
  return outcome.exitCode

import Bytewise.Buffer.Named
import Bytewise.Checksum
import Bytewise.Difference
import Bytewise.Inspect
import Bytewise.Similarity

/-! The comparison of two named buffers, byte by byte and by structure. -/

namespace Bytewise

/-- What is known of one buffer. -/
structure FileReport where
  name : String
  size : Nat
  digest : String
  fileType : FileType
  image : Structure
deriving DecidableEq, Repr

def FileReport.of (file : NamedBuffer) : FileReport where
  name := file.name
  size := file.content.size
  digest := Checksum.digest file.content
  fileType := (inspect file.content).1
  image := (inspect file.content).2

/-- What is known of two buffers. -/
structure Comparison where
  file1 : FileReport
  file2 : FileReport
  sizeMatch : Bool
  similarity : Binary64
  differences : List Nat
  byteValues : List ByteDifference
deriving DecidableEq, Repr

def sizesMatch (first second : Buffer) : Bool :=
  first.size == second.size

/-- The percentage of the longer buffer's positions at which two buffers agree. -/
def Similarity.ofBuffers (first second : Buffer) : Binary64 :=
  ofCount (max first.size second.size) (differences first second).length

def Comparison.of (file1 file2 : NamedBuffer) : Comparison :=
  let positions := Bytewise.differences file1.content file2.content
  {
    file1 := .of file1
    file2 := .of file2
    sizeMatch := sizesMatch file1.content file2.content
    similarity :=
      Similarity.ofCount (max file1.content.size file2.content.size) positions.length
    differences := positions
    byteValues := positions.map (ByteDifference.at file1.content file2.content)
  }

namespace Comparison

def differenceCount (comparison : Comparison) : Nat :=
  comparison.differences.length

def identical (comparison : Comparison) : Bool :=
  comparison.differences.isEmpty

def quotedNames (comparison : Comparison) : String :=
  "'" ++ comparison.file1.name ++ "' and '" ++ comparison.file2.name ++ "'"

/-- The comparison in a sentence. -/
def summary (comparison : Comparison) : String :=
  if comparison.identical then
    comparison.quotedNames ++ " are identical (" ++ toString comparison.file1.size ++ " bytes)."
  else
    comparison.quotedNames ++ " differ at " ++ toString comparison.differenceCount
      ++ (if comparison.differenceCount = 1 then " position" else " positions")
      ++ "; similarity " ++ comparison.similarity.fixed 2 ++ "%"
      ++ (if comparison.sizeMatch then "." else ", sizes differ.")

end Comparison

end Bytewise

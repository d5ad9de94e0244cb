import Bytewise.ByteSize
import Bytewise.FileTree
import Bytewise.Report.Encode

/-! The requests that a caller can make about files: to compare two of them, with a limit on how
many differences are listed, and to inspect one.
-/

namespace Bytewise

/-- Why a comparison request is refused. -/
inductive RequestError where
  | negativeListing
  | load (error : LoadError)
deriving DecidableEq, Repr

def RequestError.message : RequestError → String
  | .negativeListing => "max_differences must not be negative"
  | .load error => error.message

/-- A comparison whose listings are cut, and what the whole of them would tell. -/
structure ListedComparison where
  listed : Comparison
  differenceCount : Nat
  truncated : Bool
  sizeText1 : String
  sizeText2 : String
  summary : String
deriving DecidableEq, Repr

/-- The comparison with only the first differences listed. -/
def Comparison.cut (comparison : Comparison) (limit : Nat) : Comparison :=
  { comparison with
    differences := comparison.differences.take limit
    byteValues := comparison.byteValues.take limit }

namespace ListedComparison

/-- A comparison with at most `limit` differences listed. -/
def of (comparison : Comparison) (limit : Nat) : ListedComparison where
  listed := comparison.cut limit
  differenceCount := comparison.differenceCount
  truncated := limit < comparison.differenceCount
  sizeText1 := ByteSize.describe comparison.file1.size
  sizeText2 := ByteSize.describe comparison.file2.size
  summary := comparison.summary

def toJson (report : ListedComparison) : Json :=
  .object
    (report.listed.members
      ++ [("difference_count", .natural report.differenceCount),
        ("truncated", .bool report.truncated),
        ("file1_size_human", .string report.sizeText1),
        ("file2_size_human", .string report.sizeText2),
        ("summary", .string report.summary)])

end ListedComparison

/-- The report on one file. -/
structure Inspection where
  file : FileReport
  sizeText : String
deriving DecidableEq, Repr

namespace Inspection

def of (file : NamedBuffer) : Inspection where
  file := .of file
  sizeText := ByteSize.describe file.content.size

def toJson (report : Inspection) : Json :=
  .object
    [("name", .string report.file.name),
      ("size", .natural report.file.size),
      ("size_human", .string report.sizeText),
      ("hash", .string report.file.digest),
      ("type", report.file.fileType.toJson),
      ("structure", report.file.image.toJson)]

end Inspection

/-- How many differences are listed where no limit is given. -/
def defaultListing : Int := 100

namespace FileTree

/-- The comparison of two files of the tree. The first file that cannot be loaded decides the
error.
-/
def compare (tree : FileTree) (sizeLimit : Int) (path1 path2 : String)
    : Except LoadError Comparison := do
  let file1 ← tree.load sizeLimit path1
  let file2 ← tree.load sizeLimit path2
  return .of file1 file2

/-- The comparison of two files with at most `listing` differences listed. -/
def compareListed (tree : FileTree) (sizeLimit : Int) (path1 path2 : String)
    (listing : Int)
    : Except RequestError ListedComparison :=
  if listing < 0 then
    .error .negativeListing
  else
    match tree.compare sizeLimit path1 path2 with
    | .ok comparison => .ok (.of comparison listing.toNat)
    | .error error => .error (.load error)

/-- The inspection of a file of the tree. -/
def inspect (tree : FileTree) (sizeLimit : Int) (path : String)
    : Except LoadError Inspection :=
  (tree.load sizeLimit path).map Inspection.of

end FileTree

end Bytewise

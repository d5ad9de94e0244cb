import Bytewise.ByteSize
import Bytewise.Comparison

/-! The plain-text report on a comparison, which lists the first differences only. -/

namespace Bytewise.Report

def listedDifferences : Nat := 16

/-- The text for what is not there. -/
def absent : String := "N/A"

def byteText (byte : Option UInt8) : String :=
  (byte.map (fun value => "0x" ++ Text.hex 2 value.toNat)).getD absent

/-- A byte and the character that shows it. -/
def sideText (byte : Option UInt8) (char : Option Char) : String :=
  byteText byte ++ " (" ++ (char.map Char.toString).getD absent ++ ")"

def differenceLine (difference : ByteDifference) : String :=
  "  0x" ++ Text.hex 8 difference.position ++ ": "
    ++ sideText difference.byte1 difference.char1 ++ " | "
    ++ sideText difference.byte2 difference.char2

/-- The lines for one of the files. -/
def fileLines (label : String) (file : FileReport) : List String :=
  [label ++ ": " ++ file.name ++ " (" ++ ByteSize.describe file.size ++ ")",
    "  Type: " ++ file.fileType.description,
    "  Hash: " ++ file.digest]

/-- The lines for the first differences, and how many more there are. -/
def differenceLines (comparison : Comparison) : List String :=
  (comparison.byteValues.take listedDifferences).map differenceLine
    ++ if listedDifferences < comparison.differenceCount then
        ["  ... " ++ toString (comparison.differenceCount - listedDifferences) ++ " more"]
      else
        []

/-- The lines of the report on a comparison. -/
def lines (comparison : Comparison) : List String :=
  fileLines "File 1" comparison.file1
    ++ fileLines "File 2" comparison.file2
    ++ ["",
      "Size match: " ++ (if comparison.sizeMatch then "yes" else "no"),
      "Similarity: " ++ comparison.similarity.fixed 2 ++ "%",
      "Differences: " ++ toString comparison.differenceCount]
    ++ differenceLines comparison

/-- Lines as text, each ended by a line break. -/
def ofLines (lines : List String) : String :=
  String.join (lines.map (fun line => line ++ "\n"))

end Bytewise.Report

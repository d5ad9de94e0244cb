import Bytewise.Buffer.Search
import Bytewise.Elf.Header
import Bytewise.FileType
import Bytewise.Pe.Header
import Bytewise.Signature

/-! The format of a buffer, told from its content: by the signature it begins with, else by how
much of it is text. Every buffer has a format.
-/

namespace Bytewise

-----------------------------------------------------------------------------------------
-- Text
-----------------------------------------------------------------------------------------

/-- How many bytes decide whether a buffer is text. -/
def textSampleSize : Nat := 1024

/-- Whether a byte is a printable ASCII character, a tab or a line end. -/
def isTextByte (byte : UInt8) : Bool :=
  (32 ≤ byte && byte ≤ 126) || byte == 9 || byte == 10 || byte == 13

/-- Whether more than nine tenths of a sample are text bytes. -/
def isTextSample (sample : List UInt8) : Bool :=
  9 * sample.length < 10 * sample.countP isTextByte

/-- Whether the buffer's leading sample is text; an empty one is not. -/
def isProbablyText (buffer : Buffer) : Bool :=
  isTextSample (buffer.clip 0 textSampleSize)

-----------------------------------------------------------------------------------------
-- Markers inside containers and texts
-----------------------------------------------------------------------------------------

/-- A format that is recognised by any of some texts inside the buffer. -/
structure Marker where
  texts : List String
  fileType : FileType

/-- Whether the buffer holds one of the marker's texts. -/
def Marker.isIn (marker : Marker) (buffer : Buffer) : Bool :=
  marker.texts.any (fun text => buffer.hasText text)

/-- The file type of the first marker that the buffer holds. -/
def firstMarked (markers : List Marker) (fallback : FileType) (buffer : Buffer) : FileType :=
  ((markers.find? (fun marker => marker.isIn buffer)).map Marker.fileType).getD fallback

/-- The archive formats that are told by the name of a file inside them. -/
def archiveMarkers : List Marker :=
  [⟨["word/document.xml"], { format := .docx, description := "Microsoft Word Document" }⟩,
    ⟨["xl/workbook.xml"], { format := .xlsx, description := "Microsoft Excel Spreadsheet" }⟩,
    ⟨["ppt/presentation.xml"],
      { format := .pptx, description := "Microsoft PowerPoint Presentation" }⟩,
    ⟨["META-INF/MANIFEST.MF"], { format := .jar, description := "Java Archive" }⟩,
    ⟨["AndroidManifest.xml"], { format := .apk, description := "Android Package" }⟩]

/-- The text formats that are told by a text inside them. -/
def textMarkers : List Marker :=
  [⟨["<?xml"], { format := .xml, description := "XML Document" }⟩,
    ⟨["<!DOCTYPE html", "<html"], { format := .html, description := "HTML Document" }⟩,
    ⟨["#!/"], { format := .script, description := "Shell Script" }⟩]

-----------------------------------------------------------------------------------------
-- File types
-----------------------------------------------------------------------------------------

namespace FileType

/-- An executable without a header of the newer kind. -/
def dosExecutable : FileType :=
  { format := .dosExecutable, description := "MS-DOS executable file" }

def zipArchive : FileType :=
  { format := .zip, description := "ZIP Archive" }

def textFile : FileType :=
  { format := .text, description := "Text File" }

/-- A buffer that is nothing else. -/
def binaryData : FileType :=
  { format := .binary, description := "Binary Data" }

def windowsExecutable (header : Pe.Header) : FileType where
  format := .windowsExecutable
  description := "Windows " ++ header.subtype ++ " (" ++ header.machineName ++ ")"
  subtype := some header.subtype
  architecture := some header.machineName

/-- An ELF image of the given kind and address width. -/
def elf (subtype : String) (architecture : Option String) : FileType where
  format := .elf
  description :=
    "Linux/Unix " ++ subtype
      ++ match architecture with
        | some width => " (" ++ width ++ ")"
        | none => ""
  subtype := some subtype
  architecture := architecture

/-- A Mach-O image of the given address width. -/
def machO (width : String) : FileType where
  format := .machO
  description := "macOS/iOS executable (" ++ width ++ ")"
  architecture := some width

end FileType

/-- The file type of a buffer that begins with the given signature. -/
def classifySigned (buffer : Buffer) : Signature → FileType
  | .mz =>
      match Pe.locate? buffer with
      | some offset => .windowsExecutable (Pe.Header.read buffer offset)
      | none => .dosExecutable
  | .elf => .elf (Elf.typeName buffer) (Elf.className? buffer)
  | .machO32 => .machO "32-bit"
  | .machO64 => .machO "64-bit"
  | .zip => firstMarked archiveMarkers .zipArchive buffer
  | .pdf => { format := .pdf, description := "Portable Document Format" }
  | .jpeg => { format := .jpeg, description := "JPEG Image" }
  | .png => { format := .png, description := "PNG Image" }
  | .gif => { format := .gif, description := "GIF Image" }
  | .javaClass => { format := .javaClass, description := "Java Class File" }

def classify (buffer : Buffer) : FileType :=
  match Signature.match? buffer with
  | some signature => classifySigned buffer signature
  | none =>
      if isProbablyText buffer then
        firstMarked textMarkers .textFile buffer
      else
        .binaryData

end Bytewise

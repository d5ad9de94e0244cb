import Bytewise.Text.Quoted

/-! The formats that a buffer can have, and what is said about a buffer's format. -/

namespace Bytewise

inductive Format where
  | windowsExecutable
  | dosExecutable
  | elf
  | machO
  | docx
  | xlsx
  | pptx
  | jar
  | apk
  | zip
  | pdf
  | jpeg
  | png
  | gif
  | javaClass
  | xml
  | html
  | script
  | text
  | binary
deriving DecidableEq, Repr

namespace Format

def all : List Format :=
  [.windowsExecutable, .dosExecutable, .elf, .machO, .docx, .xlsx, .pptx, .jar, .apk, .zip,
    .pdf, .jpeg, .png, .gif, .javaClass, .xml, .html, .script, .text, .binary]

/-- The tag under which a format is reported. -/
def tag : Format → String
  | .windowsExecutable => "Windows Executable"
  | .dosExecutable => "DOS Executable"
  | .elf => "ELF"
  | .machO => "Mach-O"
  | .docx => "DOCX"
  | .xlsx => "XLSX"
  | .pptx => "PPTX"
  | .jar => "JAR"
  | .apk => "APK"
  | .zip => "ZIP"
  | .pdf => "PDF"
  | .jpeg => "JPEG"
  | .png => "PNG"
  | .gif => "GIF"
  | .javaClass => "CLASS"
  | .xml => "XML"
  | .html => "HTML"
  | .script => "Script"
  | .text => "Text"
  | .binary => "Binary"

def ofTag? (tag : String) : Option Format :=
  all.find? (fun format => format.tag == tag)

/-- A format is found under its tag; witness: the tags differ. -/
theorem ofTag?_tag (format : Format) : ofTag? format.tag = some format := by
  cases format <;> rfl

/-- What is found under a tag has that tag; witness: the search tests it. -/
theorem tag_of_ofTag? {tag : String} {format : Format} (found : ofTag? tag = some format)
    : format.tag = tag := by
  simpa using List.find?_some found

/-- Why a text is not a format. -/
inductive TagError where
  | unknown (tag : String)
deriving DecidableEq, Repr

def TagError.message : TagError → String
  | .unknown tag => Text.quoted tag ++ " is not a valid FileType"

/-- The format of a given tag, or the tag as the cause of the failure. -/
def parse (tag : String) : Except TagError Format :=
  match ofTag? tag with
  | some format => .ok format
  | none => .error (.unknown tag)

end Format

/-- What is said about the format of a buffer. A subtype and an architecture are there only
for formats whose header names them.
-/
structure FileType where
  format : Format
  description : String
  subtype : Option String := none
  architecture : Option String := none
deriving DecidableEq, Repr

end Bytewise

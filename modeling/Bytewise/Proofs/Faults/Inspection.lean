import Bytewise.Decimal.Fraction
import Bytewise.Inspect
import Bytewise.Proofs.Buffer.Slices

/-! Inspection in steps that can fail. A step that is not defined everywhere (a byte at an index, an
entry of a table, a quotient, the use of a number that may be absent) is a fault outside of where it
is defined. The tests in front of these steps keep all of them inside: every step comes to what the
total function says.
-/

namespace Bytewise

/-- Why a step fails. -/
inductive Fault where
  /-- There is no file at a path. -/
  | missingFile (text : String)
  /-- A value is not admissible. -/
  | invalidValue (text : String)
  /-- Something is taken from behind the end of a list or a buffer. -/
  | outOfBounds
  /-- A table is asked for a name that it does not have. -/
  | unknownName (name : String)
  /-- A number that is absent is used. -/
  | absentNumber
  | divisionByZero
  /-- A decimal is too large. -/
  | decimalOverflow
  /-- A decimal needs more digits than are kept. -/
  | tooManyDigits
  /-- A number is too large for the binary format. -/
  | overflow
  /-- Links are in a loop, or nested more deeply than they are followed. -/
  | tooManyLinks
  /-- A text has a character that the standard output does not take. -/
  | unwritable
deriving DecidableEq, Repr

/-- The result of a step, or why it fails. -/
abbrev Attempt (α : Type) := Except Fault α

namespace Attempt

/-- A value that has to be there, and the fault of using it when it is not. -/
def present {α : Type} (fault : Fault) : Option α → Attempt α
  | some value => .ok value
  | none => .error fault

/-- A part over a whole. -/
def ratio (part whole : Nat) : Attempt Fraction :=
  if whole = 0 then .error .divisionByZero else .ok ⟨part, whole⟩

/-- A step that comes to a value is followed by the next one with that value. -/
theorem ok_bind {α β : Type} (value : α) (next : α → Attempt β)
    : (Except.ok value >>= next) = next value :=
  rfl

-----------------------------------------------------------------------------------------
-- Reads
-----------------------------------------------------------------------------------------

/-- The byte at an index, which has to lie inside the buffer. -/
def byteAt (buffer : Buffer) (index : Nat) : Attempt UInt8 :=
  present .outOfBounds buffer[index]?

/-- The number of `width` bytes at `offset`, which have to lie inside the buffer. -/
def unpack (buffer : Buffer) (width offset : Nat) : Attempt Nat :=
  present .outOfBounds (buffer.read? .little width offset)

/-- A number is unpacked once its end is known to lie inside the buffer. -/
def read (buffer : Buffer) (width offset : Nat) : Attempt (Option Nat) :=
  if buffer.size < offset + width then .ok none else (unpack buffer width offset).map some

/-- A byte is read once it is known to lie inside the buffer. -/
def readByte (buffer : Buffer) (offset : Nat) : Attempt (Option Nat) :=
  if offset < buffer.size then
    (byteAt buffer offset).map (fun byte => some byte.toNat)
  else
    .ok none

theorem read_eq (buffer : Buffer) (width offset : Nat)
    : read buffer width offset = .ok (buffer.read? .little width offset) := by
  rw [read]
  split
  case isTrue behind => rw [Buffer.read?_eq_none_iff.mpr behind]
  case isFalse inside =>
    obtain ⟨value, found⟩ :=
      Option.ne_none_iff_exists'.mp (mt Buffer.read?_eq_none_iff.mp inside)
    rw [unpack, found]
    rfl

theorem readByte_eq (buffer : Buffer) (offset : Nat)
    : readByte buffer offset = .ok (buffer.u8? offset) := by
  rw [readByte]
  split
  case isTrue inside =>
    rw [byteAt, Buffer.u8?, Buffer.read?, Buffer.slice?_one, Array.getElem?_eq_getElem inside]
    rfl
  case isFalse behind =>
    have absent : buffer.u8? offset = none := Buffer.read?_eq_none_iff.mpr (by omega)
    rw [absent]

-----------------------------------------------------------------------------------------
-- File types
-----------------------------------------------------------------------------------------

def locate (buffer : Buffer) : Attempt (Option Nat) := do
  let pointer ← read buffer 4 Pe.headerPointer
  return pointer.filter (fun offset => buffer.slice? offset 4 = some Pe.signature)

def header (buffer : Buffer) (offset : Nat) : Attempt Pe.Header := do
  let machine ← read buffer 2 (offset + 4)
  let sectionCount ← read buffer 2 (offset + 6)
  let optionalHeaderSize ← read buffer 2 (offset + 20)
  let characteristics ← read buffer 2 (offset + 22)
  let magic ← read buffer 2 (offset + 24)
  let entryPoint ← read buffer 4 (offset + 40)
  return { machine, sectionCount, optionalHeaderSize, characteristics, magic, entryPoint }

def elfTypeName (buffer : Buffer) : Attempt String := do
  let code ← read buffer 2 16
  return (code.bind (fun code => Elf.typeNames.lookup code)).getD "Unknown"

def elfClassName (buffer : Buffer) : Attempt (Option String) := do
  let code ← readByte buffer 4
  return code.bind (fun code => Elf.classNames.lookup code)

/-- The signature of a name, which has to be a name of the table. -/
def signatureNamed (name : String) : Attempt Signature :=
  present (.unknownName name) (Signature.ofName? name)

/-- The file type of a buffer that begins with the signature of a name. -/
def classifyNamed (buffer : Buffer) (name : String) : Attempt FileType := do
  match ← signatureNamed name with
  | .mz =>
      match ← locate buffer with
      | some offset => return .windowsExecutable (← header buffer offset)
      | none => return .dosExecutable
  | .elf => return .elf (← elfTypeName buffer) (← elfClassName buffer)
  | other => return classifySigned buffer other

def isProbablyText (buffer : Buffer) : Attempt Bool :=
  let sample := buffer.clip 0 textSampleSize
  if sample.isEmpty then
    .ok false
  else do
    let share ← ratio (sample.countP isTextByte) sample.length
    return 9 * share.den < 10 * share.num

def classify (buffer : Buffer) : Attempt FileType := do
  match Signature.match? buffer with
  | some signature => classifyNamed buffer signature.name
  | none =>
      if ← isProbablyText buffer then
        return firstMarked textMarkers .textFile buffer
      else
        return .binaryData

theorem locate_eq (buffer : Buffer) : locate buffer = .ok (Pe.locate? buffer) := by
  rw [locate, read_eq]
  rfl

theorem header_eq (buffer : Buffer) (offset : Nat)
    : header buffer offset = .ok (.read buffer offset) := by
  simp only [header, read_eq]
  rfl

theorem elfTypeName_eq (buffer : Buffer) : elfTypeName buffer = .ok (Elf.typeName buffer) := by
  rw [elfTypeName, read_eq]
  rfl

theorem elfClassName_eq (buffer : Buffer)
    : elfClassName buffer = .ok (Elf.className? buffer) := by
  rw [elfClassName, readByte_eq]
  rfl

theorem signatureNamed_eq (signature : Signature)
    : signatureNamed signature.name = .ok signature := by
  rw [signatureNamed, Signature.ofName?_name]
  rfl

theorem classifyNamed_eq (buffer : Buffer) (signature : Signature)
    : classifyNamed buffer signature.name = .ok (classifySigned buffer signature) := by
  rw [classifyNamed, signatureNamed_eq]
  cases signature with
  | mz =>
      simp only [classifySigned, locate_eq, header_eq]
      cases Pe.locate? buffer with
      | none | some offset => rfl
  | elf =>
      simp only [elfTypeName_eq, elfClassName_eq]
      rfl
  | machO32 | machO64 | zip | pdf | jpeg | png | gif | javaClass => rfl

/-- The length of a sample divides once the sample is known not to be empty. -/
theorem isProbablyText_eq (buffer : Buffer)
    : isProbablyText buffer = .ok (Bytewise.isProbablyText buffer) := by
  rw [isProbablyText, Bytewise.isProbablyText]
  cases buffer.clip 0 textSampleSize with
  | nil | cons byte rest => rfl

theorem classify_eq (buffer : Buffer) : classify buffer = .ok (Bytewise.classify buffer) := by
  rw [classify, Bytewise.classify]
  cases Signature.match? buffer with
  | some signature => exact classifyNamed_eq buffer signature
  | none =>
      simp only [isProbablyText_eq]
      cases Bytewise.isProbablyText buffer with
      | false | true => rfl

-----------------------------------------------------------------------------------------
-- Structures
-----------------------------------------------------------------------------------------

/-- The section of the entry at an offset, whose numbers have to be there. -/
def sectionAt (buffer : Buffer) (offset : Nat) : Attempt Section := do
  let size ← present .absentNumber (← read buffer 4 (offset + 16))
  let flags ← present .absentNumber (← read buffer 4 (offset + 36))
  return {
    name := Pe.sectionName (buffer.clip offset (offset + 8))
    size
    description := Pe.sectionDescription flags
  }

/-- The sections of entries from an offset on, up to the first that does not lie inside the buffer.
-/
def sectionsFrom (buffer : Buffer) : (offset count : Nat) → Attempt (List Section)
  | _, 0 => .ok []
  | offset, count + 1 =>
      if buffer.size < offset + Pe.sectionEntrySize then
        .ok []
      else do
        let first ← sectionAt buffer offset
        let rest ← sectionsFrom buffer (offset + Pe.sectionEntrySize) count
        return first :: rest

/-- The structure of a portable executable. Every fault of reading its imports is caught where they
are read and leaves them absent.
-/
def structureOfPe (buffer : Buffer) (offset : Nat) : Attempt Structure := do
  let header ← header buffer offset
  let sections ←
    sectionsFrom buffer (header.sectionTable offset)
      (min (header.sectionCount.getD 0) Pe.shownSections)
  return {
    sections := some sections
    architecture := some header.architecture
    entryPoint := header.entryPoint.map (fun address => "0x" ++ Text.upperHex address)
    imports := Pe.imports? buffer offset
  }

/-- The structure of an ELF image, of which the imports are absent as well after any fault. -/
def structureOfElf (buffer : Buffer) : Attempt Structure := do
  let version ← read buffer 4 20
  let kind ← elfTypeName buffer
  let machine ← read buffer 2 18
  let width ← elfClassName buffer
  return {
    headers := some
      [{ name := "Type", value := kind },
        { name := "Machine", value := Elf.machineName (machine.map Int.ofNat) },
        { name := "Version", value := (version.map toString).getD "Unknown" }]
    architecture := width
    imports := Elf.imports? buffer
  }

/-- Whether a buffer begins with the signature of a name. -/
def startsWithNamed (buffer : Buffer) (name : String) : Attempt Bool := do
  return (← signatureNamed name).matchesStart buffer

def extract (buffer : Buffer) : Format → Attempt Structure
  | .windowsExecutable => do
      if ← startsWithNamed buffer Signature.mz.name then
        match ← locate buffer with
        | some offset => structureOfPe buffer offset
        | none => return .empty
      else
        return .empty
  | .elf => do
      if ← startsWithNamed buffer Signature.elf.name then structureOfElf buffer else return .empty
  | _ => .ok .empty

def inspect (buffer : Buffer) : Attempt (FileType × Structure) := do
  let fileType ← classify buffer
  let image ← extract buffer fileType.format
  return (fileType, image)

/-- The numbers of an entry that lies inside the buffer are there. -/
theorem sectionAt_eq {buffer : Buffer} {offset : Nat} {entry : List UInt8}
    (found : buffer.slice? offset Pe.sectionEntrySize = some entry)
    : sectionAt buffer offset = .ok (Pe.sectionOfEntry entry) := by
  have size := Buffer.read?_within found (show 16 + 4 ≤ Pe.sectionEntrySize by decide) .little
  have flags := Buffer.read?_within found (show 36 + 4 ≤ Pe.sectionEntrySize by decide) .little
  have name : buffer.clip offset (offset + 8) = entry.take 8 := by
    have slice := Buffer.slice?_within found (show 0 + 8 ≤ Pe.sectionEntrySize by decide)
    have inside := (Buffer.slice?_eq_some_iff.mp slice).1
    rw [Buffer.slice?, if_pos inside] at slice
    exact Option.some.inj slice
  rw [sectionAt, read_eq, read_eq, size, flags, name]
  rfl

/-- Entries are read as sections, by induction on their count; witness: an entry is read once its
end is known to lie inside the buffer.
-/
theorem sectionsFrom_eq (buffer : Buffer) (offset count : Nat)
    : sectionsFrom buffer offset count = .ok (Pe.sectionsFrom buffer offset count) := by
  induction count generalizing offset with
  | zero => rfl
  | succ count ih =>
      rw [sectionsFrom, Pe.sectionsFrom, ih]
      cases found : buffer.slice? offset Pe.sectionEntrySize with
      | none =>
          rw [if_pos (Buffer.slice?_eq_none_iff.mp found)]
      | some entry =>
          have inside := (Buffer.slice?_eq_some_iff.mp found).1
          rw [if_neg (Nat.not_lt.mpr inside), sectionAt_eq found]
          rfl

theorem structureOfPe_eq (buffer : Buffer) (offset : Nat)
    : structureOfPe buffer offset = .ok (.ofPe buffer offset) := by
  simp only [structureOfPe, header_eq, sectionsFrom_eq]
  rfl

theorem structureOfElf_eq (buffer : Buffer) : structureOfElf buffer = .ok (.ofElf buffer) := by
  simp only [structureOfElf, read_eq, elfTypeName_eq, elfClassName_eq]
  rfl

theorem startsWithNamed_eq (buffer : Buffer) (signature : Signature)
    : startsWithNamed buffer signature.name = .ok (signature.matchesStart buffer) := by
  rw [startsWithNamed, signatureNamed_eq]
  rfl

theorem extract_eq (buffer : Buffer) (format : Format)
    : extract buffer format = .ok (Structure.extract buffer format) := by
  cases format with
  | windowsExecutable =>
      simp only [extract, Structure.extract, startsWithNamed_eq, locate_eq, structureOfPe_eq]
      cases Signature.mz.matchesStart buffer with
      | false => rfl
      | true =>
          cases Pe.locate? buffer with
          | none | some offset => rfl
  | elf =>
      simp only [extract, Structure.extract, startsWithNamed_eq, structureOfElf_eq]
      cases Signature.elf.matchesStart buffer with
      | false | true => rfl
  | _ => rfl

/-- Every buffer is inspected without a fault. -/
theorem inspect_eq (buffer : Buffer) : inspect buffer = .ok (Bytewise.inspect buffer) := by
  simp only [inspect, classify_eq, extract_eq]
  rfl

end Attempt

end Bytewise

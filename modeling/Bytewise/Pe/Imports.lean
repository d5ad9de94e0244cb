import Bytewise.Pe.ThunkTable
import Bytewise.Text.Hex

/-! The functions that a portable executable imports, as `library!function`. -/

namespace Bytewise.Pe

/-- Whether a byte is an ASCII letter or digit. -/
def isAlphanumeric (byte : UInt8) : Bool :=
  (Char.ofUInt8 byte).isAlphanum

/-- The other characters of a function's name. -/
def functionMarks : List Char := "._?@$()<>".toList

/-- The other characters of a library's name. -/
def libraryMarks : List Char := "!#$%&'()-@^_\x60\x7b\x7d~+,.;=[]:\\/".toList

/-- Whether all bytes of a name are letters, digits or among the given characters. -/
def isName (marks : List Char) (bytes : List UInt8) : Bool :=
  bytes.all (fun byte => isAlphanumeric byte || marks.contains (Char.ofUInt8 byte))

/-- What stands for the name of a library that cannot be one. -/
def invalidName : String := "*invalid*"

/-- The name under which a library is listed. -/
def libraryName (bytes : List UInt8) : String :=
  if isName libraryMarks bytes then Text.ofLatin1 bytes else invalidName

/-- An import descriptor: the addresses of a lookup table, of a library's name and of an address
table.
-/
structure ImportDescriptor where
  lookupTable : Nat
  name : Nat
  addressTable : Nat
deriving DecidableEq, Repr

namespace ImportDescriptor

/-- The bytes of a descriptor. -/
def recordSize : Nat := 20

/-- The descriptor that a record of bytes stores. -/
def ofRecord (record : List UInt8) : ImportDescriptor where
  lookupTable := ByteOrder.little.field 4 0 record
  name := ByteOrder.little.field 4 12 record
  addressTable := ByteOrder.little.field 4 16 record

/-- The length that the thunk tables of a descriptor may have when it ends at `stop`: they do not
run into a descriptor behind them, nor past the `remaining` bytes of the file.
-/
def longestTable (descriptor : ImportDescriptor) (stop remaining : Nat) : Nat :=
  if descriptor.lookupTable < stop ∨ descriptor.addressTable < stop then
    max (stop - descriptor.lookupTable) (stop - descriptor.addressTable)
  else
    remaining

end ImportDescriptor

namespace Image

/-- The function that an entry of a thunk table imports, by ordinal or by a name behind a two-byte
hint. The entry is skipped if it has no proper name, and unreadable if its hint is.
-/
def function? (image : Image) (entry : Nat) : OptionT Walk (Option String) := do
  if image.isOrdinal entry then
    let ordinal := entry % 0x10000
    return if ordinal = 0 then none else some ("ord_" ++ toString ordinal)
  else
    let _ ← OptionT.mk (image.fetch? entry 2)
    let name ← image.nameAt (entry + 2)
    return if !name.isEmpty && isName functionMarks name then some (Text.ofLatin1 name) else none

/-- The functions that a descriptor imports, none if an entry is unreadable. The lookup table is
used unless it is empty; the address table is read in any case.
-/
def functions (image : Image) (descriptor : ImportDescriptor) (length : Nat)
    : Walk (List String) := do
  let lookups ← image.thunks descriptor.lookupTable length
  let addresses ← image.thunks descriptor.addressTable length
  let entries := if lookups.isEmpty then addresses else lookups
  return (((← (entries.mapM image.function?).run).getD []).filterMap id)

/-- How many descriptors without functions end the list. -/
def mostEmptyDescriptors : Nat := 5

/-- The imports of the descriptors from an address on, after some without functions. The list ends
at a descriptor of zeros or an unreadable one. `fuel` bounds the number of descriptors.
-/
def importsFrom (image : Image) : (fuel address empties : Nat) → Walk (List String)
  | 0, _, _ => return []
  | fuel + 1, address, empties => do
      match ← image.fetchAll? address ImportDescriptor.recordSize with
      | none => return []
      | some record =>
          if record.all (· == 0) then
            return []
          else
            let descriptor := ImportDescriptor.ofRecord record
            let stop := address + ImportDescriptor.recordSize
            let remaining := image.bytes.size - (← image.fileOffset address)
            let functions ←
              image.functions descriptor (descriptor.longestTable stop remaining)
            if mostEmptyDescriptors < empties then
              return []
            else if functions.isEmpty then
              image.importsFrom fuel stop (empties + 1)
            else
              let library := libraryName (← image.nameAt descriptor.name)
              let rest ← image.importsFrom fuel stop empties
              return if library.isEmpty then
                rest
              else
                functions.map (fun function => library ++ "!" ++ function) ++ rest

/-- How many entries of thunk tables are read at most. -/
def entryBudget : Nat := 8193

/-- The imports of an image. Each descriptor takes an entry from the budget or is one of the few
without functions, so the fuel does not run out. The section with the entry point is looked
up first.
-/
def imports (image : Image) : List String :=
  if image.importTable = 0 then
    []
  else
    let walk : Walk (List String) := do
      let _ ← image.sectionOf image.entryPoint
      image.importsFrom (entryBudget + mostEmptyDescriptors + 3) image.importTable 0
    (walk.run { lastSection := none, budget := entryBudget }).1

end Image

/-- The imports of an image in a buffer, absent when they cannot be read or there are none. -/
def imports? (buffer : Buffer) (offset : Nat) : Option (List String) :=
  ((Image.read? buffer offset).map Image.imports).filter (fun names => !names.isEmpty)

end Bytewise.Pe

import Bytewise.Elf.SectionHeader

/-! The symbols that an ELF image leaves undefined for the loader. They are listed only if every
section header, every section name and every loader symbol can be read.
-/

namespace Bytewise.Elf

/-- A symbol: its name and the section that defines it. -/
structure Symbol where
  name : String
  sectionIndex : Nat
deriving DecidableEq, Repr

/-- Whether a named symbol is to be defined by another image. -/
def Symbol.isImport (symbol : Symbol) : Bool :=
  symbol.sectionIndex == 0 && symbol.name != ""

/-- The values of a function at `0, …, count - 1`, absent if one of them is. -/
def collect? {α : Type} (count : Nat) (value? : Nat → Option α) : Option (List α) :=
  (List.range count).mapM value?

namespace FileHeader

/-- The symbol of a given index in a symbol table, named by a string table. -/
def symbol? (file : FileHeader) (buffer : Buffer) (table strings : SectionHeader) (index : Nat)
    : Option Symbol := do
  let record ← buffer.slice? (table.offset + index * table.entrySize) file.layout.symbolSize
  let name ← strings.string? buffer (file.layout.field 4 0 0 record)
  return { name, sectionIndex := file.layout.field 2 14 6 record }

/-- The string table that a symbol table is linked to. The link has to lead to one, and the
symbol table has to hold a whole number of entries.
-/
def linkedStrings? (file : FileHeader) (buffer : Buffer) (table : SectionHeader)
    : Option SectionHeader := do
  let strings ← file.section? buffer table.link
  if strings.isStringTable && 0 < table.entrySize && table.size % table.entrySize == 0 then
    some strings
  else
    none

/-- The symbols of a table. Entries take up at least a byte, so a table with more of them than
the buffer has bytes cannot be read.
-/
def symbols? (file : FileHeader) (buffer : Buffer) (table strings : SectionHeader)
    : Option (List Symbol) :=
  if table.size / table.entrySize ≤ buffer.size then
    collect? (table.size / table.entrySize) (file.symbol? buffer table strings)
  else
    none

/-- The section whose symbols the loader resolves. -/
def loaderSymbols : String := ".dynsym"

/-- The imports that the section of a given index lists. Only the loader's symbol table lists
any, but every symbol table has to be well formed and every section has to have a name.
-/
def sectionImports? (file : FileHeader) (buffer : Buffer) (names : SectionHeader) (index : Nat)
    : Option (List String) := do
  let header ← file.section? buffer index
  let name ← names.string? buffer header.nameOffset
  if header.isSymbolTable then
    let strings ← file.linkedStrings? buffer header
    if name = loaderSymbols then
      let symbols ← file.symbols? buffer header strings
      return (symbols.filter Symbol.isImport).map Symbol.name
    else
      return []
  else
    return []

/-- The imports of all sections, in their order. Section headers take up at least a byte, so an
image with more of them than bytes cannot be read.
-/
def allImports? (file : FileHeader) (buffer : Buffer) : Option (List String) := do
  let count ← file.sectionCount? buffer
  let names ← file.names? buffer
  if count ≤ buffer.size then
    let lists ← collect? count (file.sectionImports? buffer names)
    return lists.flatten
  else
    none

end FileHeader

/-- The imports of an image, absent when they cannot be read or there are none. -/
def imports? (buffer : Buffer) : Option (List String) :=
  ((FileHeader.read? buffer).bind (fun file => file.allImports? buffer)).filter
    (fun names => !names.isEmpty)

end Bytewise.Elf

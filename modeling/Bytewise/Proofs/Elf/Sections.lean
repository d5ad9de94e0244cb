import Bytewise.Elf.Imports
import Bytewise.Proofs.Buffer.Slices

/-! What can be read of the sections of an ELF image and of the loader's symbols in them. The
imports of a section are told exactly when all that it declares can be read, and they come from the
symbols that stand in it.
-/

namespace Bytewise.Elf

-----------------------------------------------------------------------------------------
-- What a section declares
-----------------------------------------------------------------------------------------

namespace FileHeader

section Readings

variable (file : FileHeader) (buffer : Buffer)

/-- A section of a given index: its header and its name are read. -/
structure SectionAt (index : Nat) (header : SectionHeader) (name : String) : Prop where
  found : file.section? buffer index = some header
  named
    : ∃ names,
        file.names? buffer = some names
        ∧ names.string? buffer header.nameOffset = some name

/-- A symbol table is linked to a string table and holds a whole number of entries. -/
structure LinksTo (table strings : SectionHeader) : Prop where
  linked : file.section? buffer table.link = some strings
  kind : strings.isStringTable
  entrySize_pos : 0 < table.entrySize
  entrySize_dvd : table.entrySize ∣ table.size

/-- A section is one of the loader's symbol tables, with the strings that it is linked to. -/
structure LoaderTableAt (index : Nat) (table strings : SectionHeader) : Prop where
  named : file.SectionAt buffer index table ".dynsym"
  kind : table.isSymbolTable
  links : file.LinksTo buffer table strings

/-- All that the section of a given index declares can be read: its header, its name, if it is a
symbol table the strings that it is linked to, and if it is the loader's all of its symbols.
-/
structure IsReadable (index : Nat) : Prop where
  declared : ∃ header name, file.SectionAt buffer index header name
  links
    : ∀ header name,
        file.SectionAt buffer index header name
        → header.isSymbolTable
        → ∃ strings, file.LinksTo buffer header strings
  symbols
    : ∀ table strings,
        file.LoaderTableAt buffer index table strings
        → ∀ entry < table.size / table.entrySize,
            ∃ symbol, file.symbol? buffer table strings entry = some symbol

/-- A symbol stands at a place: in a section that is a symbol table of the loader, at an entry that
the table has.
-/
def SymbolAt (place : Nat × Nat) (symbol : Symbol) : Prop :=
  ∃ table strings,
    file.LoaderTableAt buffer place.1 table strings
    ∧ place.2 < table.size / table.entrySize
    ∧ file.symbol? buffer table strings place.2 = some symbol

/-- The symbols of a section are those that stand in it, by entry. -/
def HasSymbols (index : Nat) (symbols : List Symbol) : Prop :=
  ∀ entry symbol, symbols[entry]? = some symbol ↔ file.SymbolAt buffer (index, entry) symbol

end Readings

end FileHeader

-----------------------------------------------------------------------------------------
-- Values that are all there
-----------------------------------------------------------------------------------------

section Collecting

variable {α : Type} {count : Nat} {value? : Nat → Option α} {values : List α}

theorem collect?_succ
    : collect? (count + 1) value?
      = (collect? count value?).bind
          (fun front => (value? count).map (fun last => front ++ [last])) := by
  rw [collect?, List.range_succ, List.mapM_append, List.mapM_cons, List.mapM_nil, collect?]
  cases (List.range count).mapM value? with
  | none => rfl
  | some front => cases value? count <;> rfl

theorem collect?_succ_eq_some_iff
    : collect? (count + 1) value? = some values
      ↔ ∃ front last,
          collect? count value? = some front
          ∧ value? count = some last
          ∧ values = front ++ [last] := by
  simp only [collect?_succ, Option.bind_eq_some_iff, Option.map_eq_some_iff, eq_comm (a := values)]
  constructor
  · rintro ⟨front, collected, last, found, same⟩
    exact ⟨front, last, collected, found, same⟩
  · rintro ⟨front, last, collected, found, same⟩
    exact ⟨front, collected, last, found, same⟩

/-- The values that are collected are those at their own indices, by induction on the count. -/
theorem getElem?_of_collect? (collected : collect? count value? = some values)
    : values.length = count ∧ ∀ index < count, value? index = values[index]? := by
  induction count generalizing values with
  | zero =>
      cases collected
      exact ⟨rfl, fun index below => absurd below (Nat.not_lt_zero index)⟩
  | succ count ih =>
      obtain ⟨front, last, before, found, rfl⟩ := collect?_succ_eq_some_iff.mp collected
      obtain ⟨length, same⟩ := ih before
      refine ⟨by rw [List.length_append, length, List.length_singleton], ?_⟩
      intro index below
      rcases Nat.lt_succ_iff_lt_or_eq.mp below with earlier | rfl
      · rw [List.getElem?_append_left (by omega), same index earlier]
      · rw [List.getElem?_append_right (by omega), length, Nat.sub_self, found]
        rfl

/-- Values are collected if each of them is there. -/
theorem exists_collect? (present : ∀ index < count, ∃ value, value? index = some value)
    : ∃ values, collect? count value? = some values := by
  induction count with
  | zero => exact ⟨[], rfl⟩
  | succ count ih =>
      obtain ⟨front, collected⟩ := ih (fun index below => present index (Nat.lt_succ_of_lt below))
      obtain ⟨last, found⟩ := present count (Nat.lt_succ_self count)
      exact ⟨_, collect?_succ_eq_some_iff.mpr ⟨front, last, collected, found, rfl⟩⟩

/-- No more values are collected than there are places for them. -/
theorem count_le_of_collect? {size : Nat}
    (inside : ∀ index value, value? index = some value → index < size)
    (collected : collect? count value? = some values)
    : count ≤ size := by
  cases count with
  | zero => exact Nat.zero_le size
  | succ count =>
      obtain ⟨_, last, _, found, _⟩ := collect?_succ_eq_some_iff.mp collected
      exact inside count last found

end Collecting

-----------------------------------------------------------------------------------------
-- Sections and symbols
-----------------------------------------------------------------------------------------

namespace FileHeader

variable {file : FileHeader} {buffer : Buffer} {names table strings : SectionHeader}
  {index : Nat}

theorem linkedStrings?_eq_some_iff
    : file.linkedStrings? buffer table = some strings ↔ file.LinksTo buffer table strings := by
  rw [linkedStrings?, Option.bind_eq_bind, Option.bind_eq_some_iff]
  constructor
  · rintro ⟨linked, found, accepted⟩
    obtain ⟨passed, same⟩ := Option.ite_none_right_eq_some.mp accepted
    cases same
    simp only [Bool.and_eq_true, decide_eq_true_eq, beq_iff_eq] at passed
    obtain ⟨⟨kind, pos⟩, whole⟩ := passed
    exact ⟨found, kind, pos, Nat.dvd_of_mod_eq_zero whole⟩
  · rintro ⟨found, kind, pos, whole⟩
    refine ⟨strings, found, if_pos ?_⟩
    simp only [Bool.and_eq_true, decide_eq_true_eq, beq_iff_eq]
    exact ⟨⟨kind, pos⟩, Nat.mod_eq_zero_of_dvd whole⟩

theorem lt_size_of_section? {header : SectionHeader}
    (found : file.section? buffer index = some header)
    : index < buffer.size := by
  obtain ⟨fits, read⟩ := Option.ite_none_right_eq_some.mp found
  obtain ⟨record, slice, -⟩ := Option.map_eq_some_iff.mp read
  have pos : 0 < file.layout.sectionHeaderSize := by
    rw [Layout.sectionHeaderSize]
    split <;> decide
  exact Buffer.lt_size_of_slice? slice (Nat.lt_of_lt_of_le pos fits) pos

theorem lt_size_of_symbol? (entrySizePos : 0 < table.entrySize) {entry : Nat} {symbol : Symbol}
    (found : file.symbol? buffer table strings entry = some symbol)
    : entry < buffer.size := by
  rw [symbol?, Option.bind_eq_bind, Option.bind_eq_some_iff] at found
  obtain ⟨record, slice, -⟩ := found
  have pos : 0 < file.layout.symbolSize := by
    rw [Layout.symbolSize]
    split <;> decide
  exact Buffer.lt_size_of_slice? slice entrySizePos pos

/-- The symbols of a table are its entries' ones. That they are no more than the buffer has bytes
need not be asked: the last of them would not be there.
-/
theorem symbols?_eq_collect? (pos : 0 < table.entrySize)
    : file.symbols? buffer table strings
      = collect? (table.size / table.entrySize) (file.symbol? buffer table strings) := by
  rw [symbols?]
  split
  · rfl
  · next large =>
      cases collected : collect? (table.size / table.entrySize)
          (file.symbol? buffer table strings) with
      | none => rfl
      | some symbols =>
          have few := count_le_of_collect? (fun _ _ => lt_size_of_symbol? pos) collected
          exact absurd few large

theorem SectionAt.unique {header other : SectionHeader} {name otherName : String}
    (first : file.SectionAt buffer index header name)
    (second : file.SectionAt buffer index other otherName)
    : header = other ∧ name = otherName := by
  obtain ⟨found, names, tabled, named⟩ := first
  obtain ⟨otherFound, otherNames, otherTabled, otherNamed⟩ := second
  rw [found, Option.some.injEq] at otherFound
  subst otherFound
  rw [tabled, Option.some.injEq] at otherTabled
  subst otherTabled
  rw [named, Option.some.injEq] at otherNamed
  exact ⟨rfl, otherNamed⟩

theorem LinksTo.unique {other : SectionHeader} (first : file.LinksTo buffer table strings)
    (second : file.LinksTo buffer table other)
    : strings = other := by
  have linked := first.linked
  rw [second.linked, Option.some.injEq] at linked
  exact linked.symm

/-- The symbols of a loader table are collected from its entries. -/
theorem LoaderTableAt.hasSymbols (loader : file.LoaderTableAt buffer index table strings)
    {symbols : List Symbol}
    (collected
      : collect? (table.size / table.entrySize) (file.symbol? buffer table strings)
        = some symbols)
    : file.HasSymbols buffer index symbols := by
  obtain ⟨length, same⟩ := getElem?_of_collect? collected
  intro entry symbol
  constructor
  · intro listed
    have below := (List.getElem?_eq_some_iff.mp listed).1
    rw [length] at below
    exact ⟨table, strings, loader, below, (same entry below).trans listed⟩
  · rintro ⟨other, otherStrings, otherLoader, below, found⟩
    obtain ⟨rfl, -⟩ := loader.named.unique otherLoader.named
    obtain rfl := loader.links.unique otherLoader.links
    rw [← same entry below]
    exact found

/-- A section that is no symbol table of the loader has no symbols. -/
theorem SectionAt.hasNoSymbols {header : SectionHeader} {name : String}
    (declared : file.SectionAt buffer index header name)
    (other : header.isSymbolTable → name ≠ ".dynsym")
    : file.HasSymbols buffer index [] := by
  intro entry symbol
  rw [List.getElem?_nil]
  constructor
  · rintro ⟨⟩
  · rintro ⟨table, strings, loader, -⟩
    obtain ⟨rfl, rfl⟩ := declared.unique loader.named
    exact absurd rfl (other loader.kind)

/-- A section is readable by what one reading of its header and its name leads to. -/
theorem SectionAt.isReadable {header : SectionHeader} {name : String}
    (declared : file.SectionAt buffer index header name)
    (links : header.isSymbolTable → ∃ strings, file.LinksTo buffer header strings)
    (symbols
      : ∀ strings,
          file.LoaderTableAt buffer index header strings
          → ∃ symbols,
              collect? (header.size / header.entrySize) (file.symbol? buffer header strings)
                = some symbols)
    : file.IsReadable buffer index := by
  refine { declared := ⟨header, name, declared⟩, links := ?_, symbols := ?_ }
  · intro other otherName otherDeclared kind
    obtain ⟨rfl, -⟩ := declared.unique otherDeclared
    exact links kind
  · intro table strings loader entry below
    obtain ⟨rfl, -⟩ := declared.unique loader.named
    obtain ⟨symbols, collected⟩ := symbols strings loader
    obtain ⟨length, same⟩ := getElem?_of_collect? collected
    exact ⟨_, (same entry below).trans (List.getElem?_eq_getElem (length ▸ below))⟩

/-- A section whose imports are told is readable, and they are its symbols that are imports, by
entry.
-/
theorem of_sectionImports? (tabled : file.names? buffer = some names) {told : List String}
    (found : file.sectionImports? buffer names index = some told)
    : file.IsReadable buffer index
      ∧ ∃ symbols,
          file.HasSymbols buffer index symbols
          ∧ told = (symbols.filter Symbol.isImport).map Symbol.name := by
  simp only [sectionImports?, Option.bind_eq_bind, Option.bind_eq_some_iff] at found
  obtain ⟨header, headed, name, named, rest⟩ := found
  have declared : file.SectionAt buffer index header name := ⟨headed, names, tabled, named⟩
  -- A section is the loader's symbol table, another symbol table, or none; only the first of these
  -- has symbols that are read.
  by_cases kind : header.isSymbolTable
  · rw [if_pos kind, Option.bind_eq_some_iff] at rest
    obtain ⟨strings, linked, rest⟩ := rest
    have links := linkedStrings?_eq_some_iff.mp linked
    by_cases loaders : name = loaderSymbols
    · subst loaders
      rw [if_pos rfl, Option.bind_eq_some_iff] at rest
      obtain ⟨symbols, collected, same⟩ := rest
      cases same
      rw [symbols?_eq_collect? links.entrySize_pos] at collected
      have loader : file.LoaderTableAt buffer index header strings := ⟨declared, kind, links⟩
      refine ⟨declared.isReadable (fun _ => ⟨strings, links⟩) ?_, symbols,
        loader.hasSymbols collected, rfl⟩
      intro other otherLoader
      obtain rfl := links.unique otherLoader.links
      exact ⟨symbols, collected⟩
    · rw [if_neg loaders] at rest
      cases rest
      refine ⟨declared.isReadable (fun _ => ⟨strings, links⟩) ?_, [],
        declared.hasNoSymbols (fun _ => loaders), rfl⟩
      intro other otherLoader
      exact absurd (declared.unique otherLoader.named).2 loaders
  · rw [if_neg kind] at rest
    cases rest
    refine ⟨declared.isReadable (fun table => absurd table kind) ?_, [],
      declared.hasNoSymbols (fun table => absurd table kind), rfl⟩
    intro other otherLoader
    exact absurd otherLoader.kind kind

/-- The imports of a readable section are told, possibly none. -/
theorem IsReadable.exists_sectionImports? (readable : file.IsReadable buffer index)
    (tabled : file.names? buffer = some names)
    : ∃ told, file.sectionImports? buffer names index = some told := by
  obtain ⟨header, name, declared⟩ := readable.declared
  have named : names.string? buffer header.nameOffset = some name := by
    obtain ⟨_, same, named⟩ := declared.named
    rw [tabled, Option.some.injEq] at same
    subst same
    exact named
  rw [sectionImports?, declared.found, Option.bind_eq_bind, Option.bind_some, named,
    Option.bind_eq_bind, Option.bind_some]
  by_cases kind : header.isSymbolTable
  · obtain ⟨strings, links⟩ := readable.links header name declared kind
    rw [if_pos kind, linkedStrings?_eq_some_iff.mpr links, Option.bind_eq_bind, Option.bind_some]
    by_cases loaders : name = loaderSymbols
    · subst loaders
      obtain ⟨symbols, collected⟩ :=
        exists_collect? (readable.symbols header strings ⟨declared, kind, links⟩)
      rw [if_pos rfl, symbols?_eq_collect? links.entrySize_pos, collected]
      exact ⟨_, rfl⟩
    · rw [if_neg loaders]
      exact ⟨_, rfl⟩
  · rw [if_neg kind]
    exact ⟨_, rfl⟩

end FileHeader

end Bytewise.Elf

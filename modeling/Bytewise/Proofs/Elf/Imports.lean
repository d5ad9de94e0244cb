import Mathlib.Data.Prod.Lex
import Bytewise.Proofs.Elf.Sections
import Bytewise.Proofs.Inspect.Recognition

/-! The imports of an ELF image are told as a whole or not at all. Everything that the image
declares about its sections and its loader symbols has to be readable, and then each import is told
once, in the order of sections and of their entries.
-/

namespace Bytewise.Elf

namespace FileHeader

section Imports

variable (file : FileHeader) (buffer : Buffer)

/-- An import stands at a place: a symbol with a name that no section of the image defines. -/
def ImportAt (place : Nat × Nat) (name : String) : Prop :=
  ∃ symbol,
    file.SymbolAt buffer place symbol
    ∧ symbol.sectionIndex = 0
    ∧ symbol.name ≠ ""
    ∧ name = symbol.name

/-- The imports of the first sections are listed by their names, each of them once: by section, and
within a section by entry.
-/
def Lists (count : Nat) (names : List String) : Prop :=
  ∃ entries : List ((Nat × Nat) × String),
    entries.map Prod.snd = names
    ∧ (entries.map Prod.fst).Pairwise (Prod.Lex (· < ·) (· < ·))
    ∧ ∀ place name,
        (place, name) ∈ entries ↔ place.1 < count ∧ file.ImportAt buffer place name

end Imports

end FileHeader

/-- All that an image declares about its sections can be read: its file header, the count of its
sections, and each of them.
-/
structure IsReadable (buffer : Buffer) (file : FileHeader) (count : Nat) : Prop where
  headed : FileHeader.read? buffer = some file
  counted : file.sectionCount? buffer = some count
  sections : ∀ index < count, file.IsReadable buffer index

-----------------------------------------------------------------------------------------
-- Listing the imports
-----------------------------------------------------------------------------------------

namespace FileHeader

variable {file : FileHeader} {buffer : Buffer} {names : SectionHeader} {index : Nat}

/-- The imports among the symbols of a section, with their places. -/
def importEntries (index : Nat) (symbols : List Symbol) : List ((Nat × Nat) × String) :=
  (symbols.zipIdx.filter (fun numbered => numbered.1.isImport)).map
    (fun numbered => ((index, numbered.2), numbered.1.name))

theorem map_snd_importEntries (index : Nat) (symbols : List Symbol)
    : (importEntries index symbols).map Prod.snd
      = (symbols.filter Symbol.isImport).map Symbol.name := by
  have numbered : symbols.filter Symbol.isImport
      = (symbols.zipIdx.filter (fun numbered => numbered.1.isImport)).map Prod.fst :=
    calc
      symbols.filter Symbol.isImport
      _ = (symbols.zipIdx.map Prod.fst).filter Symbol.isImport := by rw [List.zipIdx_map_fst]
      _ = (symbols.zipIdx.filter (fun numbered => numbered.1.isImport)).map Prod.fst :=
          List.filter_map
  rw [importEntries, numbered, List.map_map, List.map_map]
  rfl

theorem pairwise_importEntries (index : Nat) (symbols : List Symbol)
    : ((importEntries index symbols).map Prod.fst).Pairwise (Prod.Lex (· < ·) (· < ·)) := by
  have numbers : (symbols.zipIdx.map Prod.snd).Pairwise (· < ·) := by
    rw [List.zipIdx_map_snd]
    exact List.pairwise_lt_range'
  rw [List.pairwise_map] at numbers
  rw [importEntries, List.map_map, List.pairwise_map]
  exact (numbers.filter _).imp (Prod.Lex.right index)

theorem mem_importEntries {symbols : List Symbol}
    (symbolsOf : file.HasSymbols buffer index symbols) (place : Nat × Nat) (name : String)
    : (place, name) ∈ importEntries index symbols
      ↔ place.1 = index ∧ file.ImportAt buffer place name := by
  simp only [importEntries, List.mem_map, List.mem_filter, List.mem_zipIdx_iff_getElem?,
    Symbol.isImport, Bool.and_eq_true, beq_iff_eq, bne_iff_ne, Prod.mk.injEq]
  constructor
  · rintro ⟨⟨symbol, entry⟩, ⟨listed, undefined, nonempty⟩, rfl, rfl⟩
    exact ⟨rfl, symbol, (symbolsOf entry symbol).mp listed, undefined, nonempty, rfl⟩
  · obtain ⟨_, entry⟩ := place
    rintro ⟨rfl, symbol, stands, undefined, nonempty, rfl⟩
    exact ⟨(symbol, entry), ⟨(symbolsOf entry symbol).mpr stands, undefined, nonempty⟩, rfl, rfl⟩

/-- One more section adds its imports behind those of the sections before it. -/
theorem Lists.succ {count : Nat} {told : List String} (lists : file.Lists buffer count told)
    {symbols : List Symbol} (symbolsOf : file.HasSymbols buffer count symbols)
    : file.Lists buffer (count + 1)
        (told ++ (symbols.filter Symbol.isImport).map Symbol.name) := by
  obtain ⟨entries, rfl, ascending, listed⟩ := lists
  refine ⟨entries ++ importEntries count symbols, ?_, ?_, ?_⟩
  · rw [List.map_append, map_snd_importEntries]
  · rw [List.map_append]
    refine List.pairwise_append.mpr ⟨ascending, pairwise_importEntries count symbols, ?_⟩
    intro earlier inEarlier later inLater
    obtain ⟨⟨_, name⟩, member, rfl⟩ := List.mem_map.mp inEarlier
    obtain ⟨⟨_, laterName⟩, laterMember, rfl⟩ := List.mem_map.mp inLater
    have before := ((listed _ name).mp member).1
    have last := ((mem_importEntries symbolsOf _ laterName).mp laterMember).1
    exact Prod.lex_def.mpr (Or.inl (last ▸ before))
  · intro place name
    rw [List.mem_append, listed, mem_importEntries symbolsOf, ← or_and_right,
      ← Nat.lt_succ_iff_lt_or_eq]

/-- A run over the first sections finds each of them readable and lists their imports, by induction
on their count.
-/
theorem of_collect?_sectionImports? (tabled : file.names? buffer = some names) {count : Nat}
    {lists : List (List String)}
    (collected : collect? count (file.sectionImports? buffer names) = some lists)
    : (∀ index < count, file.IsReadable buffer index)
      ∧ file.Lists buffer count lists.flatten := by
  induction count generalizing lists with
  | zero =>
      cases collected
      refine ⟨fun index below => absurd below (Nat.not_lt_zero index), [], rfl, .nil, ?_⟩
      intro place name
      simp
  | succ count ih =>
      obtain ⟨front, last, before, found, rfl⟩ := collect?_succ_eq_some_iff.mp collected
      obtain ⟨readable, listed⟩ := ih before
      obtain ⟨lastReadable, symbols, symbolsOf, rfl⟩ := of_sectionImports? tabled found
      constructor
      · intro index below
        rcases Nat.lt_succ_iff_lt_or_eq.mp below with earlier | rfl
        · exact readable index earlier
        · exact lastReadable
      · rw [List.flatten_append, List.flatten_singleton]
        exact listed.succ symbolsOf

end FileHeader

-----------------------------------------------------------------------------------------
-- The whole image
-----------------------------------------------------------------------------------------

variable {buffer : Buffer} {file : FileHeader}

/-- An image that tells its imports, if only that there are none, is readable and lists them. -/
theorem of_allImports? (headed : FileHeader.read? buffer = some file) {told : List String}
    (found : file.allImports? buffer = some told)
    : ∃ count, IsReadable buffer file count ∧ file.Lists buffer count told := by
  simp only [FileHeader.allImports?, Option.bind_eq_bind, Option.bind_eq_some_iff] at found
  obtain ⟨count, counted, names, tabled, rest⟩ := found
  obtain ⟨-, rest⟩ := Option.ite_none_right_eq_some.mp rest
  obtain ⟨lists, collected, same⟩ := Option.bind_eq_some_iff.mp rest
  cases same
  obtain ⟨readable, listed⟩ := FileHeader.of_collect?_sectionImports? tabled collected
  exact ⟨count, { headed, counted, sections := readable }, listed⟩

/-- A readable image with a section tells its imports. Witness: it has no more sections than bytes,
as each of them has a header.
-/
theorem IsReadable.exists_allImports? {count : Nat} (readable : IsReadable buffer file count)
    (nonempty : 0 < count)
    : ∃ told, file.allImports? buffer = some told := by
  obtain ⟨_, _, first⟩ := (readable.sections 0 nonempty).declared
  obtain ⟨names, tabled, -⟩ := first.named
  obtain ⟨_, _, last⟩ := (readable.sections (count - 1) (by omega)).declared
  have few : count ≤ buffer.size := by
    have below := FileHeader.lt_size_of_section? last.found
    omega
  obtain ⟨lists, collected⟩ := exists_collect?
    (fun index below => (readable.sections index below).exists_sectionImports? tabled)
  rw [FileHeader.allImports?, readable.counted, Option.bind_eq_bind, Option.bind_some, tabled,
    Option.bind_eq_bind, Option.bind_some, if_pos few, collected]
  exact ⟨_, rfl⟩

theorem of_imports? {told : List String} (found : imports? buffer = some told)
    : told ≠ []
      ∧ ∃ file count, IsReadable buffer file count ∧ file.Lists buffer count told := by
  obtain ⟨all, kept⟩ := Option.filter_eq_some_iff.mp found
  obtain ⟨file, headed, listed⟩ := Option.bind_eq_some_iff.mp all
  refine ⟨?_, file, of_allImports? headed listed⟩
  rintro rfl
  cases kept

/-- Imports are told exactly when all can be read and there is one. -/
theorem imports?_isSome_iff (buffer : Buffer)
    : (imports? buffer).isSome
      ↔ ∃ file count,
          IsReadable buffer file count
          ∧ ∃ place name, place.1 < count ∧ file.ImportAt buffer place name := by
  constructor
  · intro present
    obtain ⟨told, found⟩ := Option.isSome_iff_exists.mp present
    obtain ⟨nonempty, file, count, readable, entries, rfl, -, listed⟩ := of_imports? found
    obtain ⟨⟨place, name⟩, member⟩ :=
      List.exists_mem_of_ne_nil entries (fun empty => nonempty (by rw [empty, List.map_nil]))
    exact ⟨file, count, readable, place, name, (listed place name).mp member⟩
  · rintro ⟨file, count, readable, place, name, inside, stands⟩
    obtain ⟨told, found⟩ := readable.exists_allImports? (Nat.zero_lt_of_lt inside)
    obtain ⟨same, reread, entries, rfl, -, listed⟩ := of_allImports? readable.headed found
    have counted := reread.counted
    rw [readable.counted, Option.some.injEq] at counted
    subst counted
    have member := (listed place name).mpr ⟨inside, stands⟩
    have nonempty : entries.map Prod.snd ≠ [] :=
      List.ne_nil_of_mem (List.mem_map_of_mem member)
    rw [imports?, readable.headed, Option.bind_some, found, Option.filter_some,
      if_pos (by simpa using nonempty)]
    rfl

/-- An image without all of a file header has no imports. -/
theorem imports?_of_size_lt (short : buffer.size < 52) : imports? buffer = none := by
  have headless : FileHeader.read? buffer = none := by
    rw [Option.eq_none_iff_forall_not_mem]
    intro file read
    obtain ⟨layout, -, read⟩ := Option.bind_eq_some_iff.mp read
    obtain ⟨record, slice, -⟩ := Option.bind_eq_some_iff.mp read
    have inside := (Buffer.slice?_eq_some_iff.mp slice).1
    have least : 52 ≤ layout.fileHeaderSize := by
      rw [Layout.fileHeaderSize]
      split <;> decide
    omega
  rw [imports?, headless]
  rfl

theorem headerFields_front (buffer : Buffer)
    : headerFields (buffer.extract 0 24) = headerFields buffer := by
  simp only [headerFields, typeName, Buffer.u16?, Buffer.u32?]
  rw [Buffer.read?_front (by decide), Buffer.read?_front (by decide),
    Buffer.read?_front (by decide)]

theorem className?_front (buffer : Buffer)
    : className? (buffer.extract 0 24) = className? buffer := by
  rw [className?, Buffer.u8?, Buffer.read?_front (by decide), className?, Buffer.u8?]

/-- The imports of an ELF image are all told or not at all. They are told exactly when everything
that the image declares can be read and there is one, and then each of them is told once, in
order; one section that cannot be read leaves none. Whatever becomes of them, the header fields and
the address width are told, as they are for an image that is cut off behind them.
-/
theorem imports_allOrNothing {buffer : Buffer} (start : Signature.elf.matchesStart buffer)
    : let told := Structure.extract buffer .elf
      let beginning := Structure.extract (buffer.extract 0 24) .elf
      (told.imports.isSome
        ↔ ∃ file count,
            IsReadable buffer file count
            ∧ ∃ place name, place.1 < count ∧ file.ImportAt buffer place name)
      ∧ (∀ names,
          told.imports = some names
          → ∃ file count, IsReadable buffer file count ∧ file.Lists buffer count names)
      ∧ (∀ file count,
          FileHeader.read? buffer = some file
          → file.sectionCount? buffer = some count
          → (∃ index < count, ¬ file.IsReadable buffer index)
          → told.imports = none)
      ∧ told.headers.isSome
      ∧ told.headers = beginning.headers
      ∧ told.architecture = beginning.architecture
      ∧ beginning.imports = none := by
  intro told beginning
  have extracted : told = .ofElf buffer := Structure.extract_elf start
  have beginningStart : Signature.elf.matchesStart (buffer.extract 0 24) := by
    rw [Signature.matchesStart, Buffer.startsWith_front (by decide)]
    exact start
  have beginningExtracted : beginning = .ofElf (buffer.extract 0 24) :=
    Structure.extract_elf beginningStart
  have short : (buffer.extract 0 24).size < 52 := by
    rw [Array.size_extract]
    omega
  rw [extracted, beginningExtracted]
  refine ⟨imports?_isSome_iff buffer, fun names found => (of_imports? found).2, ?_, rfl,
    congrArg some (headerFields_front buffer).symm, (className?_front buffer).symm,
    imports?_of_size_lt short⟩
  rintro file count headed counted ⟨index, below, unreadable⟩
  rw [Option.eq_none_iff_forall_not_mem]
  intro names found
  obtain ⟨-, other, otherCount, readable, -⟩ := of_imports? found
  obtain rfl := Option.some.inj (headed.symm.trans readable.headed)
  obtain rfl := Option.some.inj (counted.symm.trans readable.counted)
  exact unreadable (readable.sections index below)

/-- A section header of a small image with short addresses. -/
def sectionRecord (name kind offset size entrySize : UInt8) : List UInt8 :=
  [name, 0, 0, 0, kind, 0, 0, 0] ++ List.replicate 8 0
    ++ [offset, 0, 0, 0, size, 0, 0, 0] ++ List.replicate 12 0 ++ [entrySize, 0, 0, 0]

/-- A symbol of such an image that no section defines. -/
def undefinedRecord (name : UInt8) : List UInt8 :=
  [name, 0, 0, 0] ++ List.replicate 12 0

/-- An image with two symbol tables of the loader. The first one has an import and a symbol without
a name, and the second one has an import of the same name.
-/
def twoLoaderTables : Buffer :=
  ([0x7F, 0x45, 0x4C, 0x46, 1, 1] ++ List.replicate 26 0 ++ [52, 0, 0, 0] ++ List.replicate 10 0
    ++ [40, 0, 3, 0, 0, 0]
    ++ sectionRecord 0 3 172 11 0 ++ sectionRecord 1 11 183 32 16 ++ sectionRecord 1 11 215 16 16
    ++ ([0, 0x2E, 0x64, 0x79, 0x6E, 0x73, 0x79, 0x6D, 0, 0x66, 0] : List UInt8)
    ++ undefinedRecord 9 ++ undefinedRecord 0 ++ undefinedRecord 9 : List UInt8).toArray

/-- A section header of a small image with long addresses, the most significant byte first. -/
def wideSectionRecord (name kind offset size entrySize : UInt8) : List UInt8 :=
  [0, 0, 0, name, 0, 0, 0, kind] ++ List.replicate 23 0 ++ [offset] ++ List.replicate 7 0
    ++ [size] ++ List.replicate 23 0 ++ [entrySize]

/-- A symbol of such an image, and the section that defines it. -/
def wideSymbolRecord (name sectionIndex : UInt8) : List UInt8 :=
  [0, 0, 0, name, 0, 0, 0, sectionIndex] ++ List.replicate 16 0

/-- An image with long addresses and the most significant byte first. Its symbol table of the loader
has an import and a symbol that the image defines itself.
-/
def definedSymbol : Buffer :=
  ([0x7F, 0x45, 0x4C, 0x46, 2, 2] ++ List.replicate 41 0 ++ [64] ++ List.replicate 11 0
    ++ [64, 0, 2, 0, 0]
    ++ wideSectionRecord 0 3 192 13 0 ++ wideSectionRecord 1 11 205 48 24
    ++ ([0, 0x2E, 0x64, 0x79, 0x6E, 0x73, 0x79, 0x6D, 0, 0x66, 0, 0x67, 0] : List UInt8)
    ++ wideSymbolRecord 9 0 ++ wideSymbolRecord 11 1 : List UInt8).toArray

/-- Both imports of the first image are listed, by two symbols of one name. Without its last byte,
the first of them could still be read and none is told, but the header fields stay. Of the other
image, the symbol that it defines is not listed.
-/
theorem imports_twoLoaderTables
    : let whole := Structure.extract twoLoaderTables .elf
      let cut := Structure.extract twoLoaderTables.pop .elf
      let wide := Structure.extract definedSymbol .elf
      Signature.elf.matchesStart twoLoaderTables
      ∧ whole.imports = some ["f", "f"]
      ∧ (∃ file count,
          IsReadable twoLoaderTables file count
          ∧ file.Lists twoLoaderTables count ["f", "f"])
      ∧ Signature.elf.matchesStart twoLoaderTables.pop
      ∧ cut.imports = none
      ∧ (¬∃ file count,
          IsReadable twoLoaderTables.pop file count
          ∧ ∃ place name, place.1 < count ∧ file.ImportAt twoLoaderTables.pop place name)
      ∧ cut.headers = whole.headers
      ∧ Signature.elf.matchesStart definedSymbol
      ∧ Layout.read? definedSymbol = some ⟨true, .big⟩
      ∧ wide.imports = some ["f"]
      ∧ ∃ file count,
          IsReadable definedSymbol file count
          ∧ file.Lists definedSymbol count ["f"]
          ∧ file.SymbolAt definedSymbol (1, 1) ⟨"g", 1⟩ := by
  intro whole cut wide
  have start : Signature.elf.matchesStart twoLoaderTables := by decide +kernel
  have cutStart : Signature.elf.matchesStart twoLoaderTables.pop := by decide +kernel
  have wideStart : Signature.elf.matchesStart definedSymbol := by decide +kernel
  obtain ⟨-, listed, -, -, headers, -, -⟩ := imports_allOrNothing start
  obtain ⟨told, -, -, -, cutHeaders, -, -⟩ := imports_allOrNothing cutStart
  obtain ⟨-, wideListed, -, -, -, -, -⟩ := imports_allOrNothing wideStart
  have imports : whole.imports = some ["f", "f"] := by decide +kernel
  have none : cut.imports = none := by decide +kernel
  have wideImports : wide.imports = some ["f"] := by decide +kernel
  have beginning : twoLoaderTables.pop.extract 0 24 = twoLoaderTables.extract 0 24 := by
    decide +kernel
  refine ⟨start, imports, listed _ imports, cutStart, none, ?_, ?_, wideStart, by decide +kernel,
    wideImports, ?_⟩
  · intro readable
    have present := told.mpr readable
    rw [none] at present
    cases present
  · rw [cutHeaders, headers, beginning]
  · obtain ⟨file, count, readable, lists⟩ := wideListed _ wideImports
    have header : FileHeader.read? definedSymbol = some ⟨⟨true, .big⟩, 64, 64, 2, 0⟩ := by
      decide +kernel
    obtain rfl := Option.some.inj (header.symm.trans readable.headed)
    refine ⟨_, count, readable, lists, ⟨1, 11, 205, 48, 0, 24⟩, ⟨0, 3, 192, 13, 0, 0⟩, ?_,
      by decide, by decide +kernel⟩
    exact {
      named := ⟨by decide +kernel, ⟨0, 3, 192, 13, 0, 0⟩, by decide +kernel, by decide +kernel⟩
      kind := rfl
      links := ⟨by decide +kernel, rfl, by decide, by decide⟩
    }

end Bytewise.Elf

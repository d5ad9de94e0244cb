import Bytewise.Proofs.Buffer.Slices
import Bytewise.Proofs.Inspect.Recognition

/-! Which entries of a section table are reported. They are the first declared ones that lie inside
the buffer as a whole, so that each part of them can be read.
-/

namespace Bytewise.Pe

/-- A section is the one that an entry at a place describes: the entry lies inside the buffer, the
name stands in its first eight bytes, and a size and flags are read at their places in it.
-/
structure DescribedAt (buffer : Buffer) (place : Nat) (entry : Section) : Prop where
  record
    : ∃ bytes, buffer.slice? place 40 = some bytes ∧ entry = sectionOfEntry bytes
  name : ∃ field, buffer.slice? place 8 = some field ∧ entry.name = sectionName field
  size : buffer.u32? (place + 16) = some entry.size
  flags
    : ∃ flags : Nat,
        buffer.u32? (place + 36) = some flags
        ∧ entry.description = sectionDescription flags

/-- The bytes of an entry describe its section; witness: each of the parts lies inside them. -/
theorem describedAt_of_slice? {buffer : Buffer} {place : Nat} {bytes : List UInt8}
    (found : buffer.slice? place 40 = some bytes)
    : DescribedAt buffer place (sectionOfEntry bytes) := by
  have name : buffer.slice? place 8 = some (bytes.take 8) := by
    have first := Buffer.slice?_within found (show 0 + 8 ≤ 40 by decide)
    rwa [Nat.add_zero, List.drop_zero] at first
  have size := Buffer.read?_within found (show 16 + 4 ≤ 40 by decide) .little
  have flags := Buffer.read?_within found (show 36 + 4 ≤ 40 by decide) .little
  exact {
    record := ⟨bytes, found, rfl⟩
    name := ⟨_, name, rfl⟩
    size := size
    flags := ⟨_, flags, rfl⟩
  }

/-- As many entries are read as are asked for and fit between the table's start and the end of the
buffer, by induction on their count: one that fits takes up forty of the bytes that are left.
-/
theorem length_sectionsFrom (buffer : Buffer) (offset count : Nat)
    : (sectionsFrom buffer offset count).length = min count ((buffer.size - offset) / 40) := by
  induction count generalizing offset with
  | zero => rw [sectionsFrom, List.length_nil, Nat.zero_min]
  | succ count ih =>
      rw [sectionsFrom]
      split
      · next bytes found =>
          have inside : offset + 40 ≤ buffer.size := (Buffer.slice?_eq_some_iff.mp found).1
          have left : (buffer.size - offset) / 40
              = (buffer.size - (offset + sectionEntrySize)) / 40 + 1 := by
            rw [sectionEntrySize]
            omega
          rw [List.length_cons, ih, left, Nat.succ_min_succ]
      · next absent =>
          have past : buffer.size < offset + 40 := Buffer.slice?_eq_none_iff.mp absent
          have none : (buffer.size - offset) / 40 = 0 := by omega
          rw [List.length_nil, none, Nat.min_zero]

/-- Each section that is read is the one that the entry at its own place describes, by induction on
the count of entries.
-/
theorem describedAt_of_getElem? {buffer : Buffer} {offset count index : Nat} {entry : Section}
    (listed : (sectionsFrom buffer offset count)[index]? = some entry)
    : DescribedAt buffer (offset + 40 * index) entry := by
  induction count generalizing offset index with
  | zero =>
      rw [sectionsFrom, List.getElem?_nil] at listed
      cases listed
  | succ count ih =>
      rw [sectionsFrom] at listed
      split at listed
      · next bytes found =>
          cases index with
          | zero =>
              rw [List.getElem?_cons_zero] at listed
              cases listed
              exact describedAt_of_slice? found
          | succ index =>
              rw [List.getElem?_cons_succ] at listed
              have place : offset + 40 * (index + 1) = offset + sectionEntrySize + 40 * index := by
                rw [sectionEntrySize]
                omega
              rw [place]
              exact ih listed
      · rw [List.getElem?_nil] at listed
        cases listed

/-- The sections of an executable are as many as its header declares, as are shown at most, and as
have room behind the table's start, whichever is least. A count or a size of the optional header
that is cut off counts as zero. Each section is described by the forty bytes at its place in the
table, which all lie inside the buffer.
-/
theorem sections_fill_table {buffer : Buffer} {offset : Nat}
    (start : Signature.mz.matchesStart buffer) (located : locate? buffer = some offset)
    : let declared := (buffer.u16? (offset + 6)).getD 0
      let table := offset + 24 + (buffer.u16? (offset + 20)).getD 0
      ∃ entries,
        (Structure.extract buffer .windowsExecutable).sections = some entries
        ∧ entries.length = min (min declared 20) ((buffer.size - table) / 40)
        ∧ ∀ index entry,
            entries[index]? = some entry
            → DescribedAt buffer (table + 40 * index) entry := by
  intro declared table
  refine ⟨sectionsFrom buffer table (min declared 20), ?_, length_sectionsFrom .., ?_⟩
  · rw [Structure.extract_windowsExecutable start located]
    rfl
  · intro index entry listed
    exact describedAt_of_getElem? listed

/-- An executable that declares two sections and ends one byte before the second one's end. -/
def oneByteShort : Buffer :=
  ([0x4D, 0x5A] ++ List.replicate 58 0 ++ [0x40, 0, 0, 0, 0x50, 0x45, 0, 0, 0x64, 0x86, 2, 0]
    ++ List.replicate 12 0 ++ [0, 0, 2, 0, 0x2E, 0x74, 0x65, 0x78, 0x74, 0, 0, 0]
    ++ List.replicate 8 0 ++ [0, 2, 0, 0] ++ List.replicate 16 0 ++ [0x20, 0, 0, 0x60]
    ++ List.replicate 39 0 : List UInt8).toArray

/-- Of those two sections the first is told, with its size, and the second is not. -/
theorem sections_oneByteShort
    : Signature.mz.matchesStart oneByteShort
      ∧ locate? oneByteShort = some 0x40
      ∧ ∃ entry,
          (Structure.extract oneByteShort .windowsExecutable).sections = some [entry]
          ∧ entry.size = 0x200 := by
  have start : Signature.mz.matchesStart oneByteShort := by decide +kernel
  have located : locate? oneByteShort = some 0x40 := by decide +kernel
  have declared : (oneByteShort.u16? (0x40 + 6)).getD 0 = 2 := by decide +kernel
  have table : (oneByteShort.u16? (0x40 + 20)).getD 0 = 0 := by decide +kernel
  have size : oneByteShort.size = 167 := by decide +kernel
  have sizeField : oneByteShort.u32? (0x40 + 24 + 16) = some 0x200 := by decide +kernel
  obtain ⟨entries, extracted, length, described⟩ := sections_fill_table start located
  rw [declared, table, size] at length
  obtain ⟨entry, rfl⟩ := List.length_eq_one_iff.mp length
  refine ⟨start, located, entry, extracted, ?_⟩
  have told := (described 0 entry rfl).size
  rw [table, sizeField] at told
  exact (Option.some.inj told).symm

end Bytewise.Pe

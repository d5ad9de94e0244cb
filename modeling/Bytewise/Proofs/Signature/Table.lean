import Mathlib.Data.List.Perm.Subperm
import Bytewise.Proofs.Dispatch

/-! The table of signatures is unambiguous: a buffer begins with one entry at most, so it does not
matter in which order they are tried, and what a buffer begins with is not changed by what follows.
-/

namespace Bytewise.Signature

/-- The name of the first entry of a table that the buffer begins with. -/
def matchName? (table : List Signature) (buffer : Buffer) : Option String :=
  (firstMatch? table buffer).map name

/-- Whether a buffer begins with the signature of a given name, absent for a name that no signature
has.
-/
def matchesNamed? (buffer : Buffer) (name : String) : Option Bool :=
  (ofName? name).map (fun signature => signature.matchesStart buffer)

variable {table : List Signature} {buffer : Buffer}

/-- Whatever the order of a table, the entry that is found is the one that the buffer begins with.
Witness: no other entry could have been found before it.
-/
theorem firstMatch?_eq_some_iff {signature : Signature}
    : firstMatch? table buffer = some signature
      ↔ signature ∈ table ∧ signature.matchesStart buffer := by
  constructor
  · intro found
    have start := List.find?_some found
    exact ⟨List.mem_of_find?_eq_some found, start⟩
  · rintro ⟨mem, start⟩
    cases found : firstMatch? table buffer with
    | none => exact absurd start (List.find?_eq_none.mp found signature mem)
    | some other =>
        have otherStart := List.find?_some found
        rw [eq_of_matchesStart otherStart start]

/-- Tables with the same entries find the same one. -/
theorem firstMatch?_eq_of_perm {reordered : List Signature} (same : reordered.Perm table)
    : firstMatch? reordered buffer = firstMatch? table buffer := by
  apply Option.ext
  intro signature
  rw [firstMatch?_eq_some_iff, firstMatch?_eq_some_iff, same.mem_iff]

/-- Of a table without repetitions, at most one entry begins a buffer. -/
theorem length_filter_matches_le_one (distinct : table.Nodup)
    : (table.filter (fun signature => signature.bytes.isPrefixOf buffer.toList)).length ≤ 1 := by
  have distinctMatches :=
    distinct.filter (fun signature : Signature => signature.bytes.isPrefixOf buffer.toList)
  cases found : table.filter (fun signature => signature.bytes.isPrefixOf buffer.toList) with
  | nil => exact Nat.zero_le 1
  | cons signature rest =>
      rw [found] at distinctMatches
      have start {entry : Signature} (mem : entry ∈ signature :: rest)
          : entry.matchesStart buffer := by
        rw [← found, List.mem_filter] at mem
        exact (Buffer.startsWith_iff _ _).mpr (List.isPrefixOf_iff_prefix.mp mem.2)
      have single : signature :: rest ⊆ [signature] := by
        intro entry mem
        exact List.mem_singleton.mpr (eq_of_matchesStart (start mem) (start List.mem_cons_self))
      exact (List.Nodup.subperm distinctMatches single).length_le

/-- The signature under a name is the one that has it. -/
theorem ofName?_eq_some_iff {text : String} {signature : Signature}
    : ofName? text = some signature ↔ signature.name = text := by
  constructor
  · intro found
    simpa using List.find?_some found
  · rintro rfl
    exact ofName?_name signature

theorem matchName?_eq_some_iff {text : String}
    : matchName? all buffer = some text ↔ matchesNamed? buffer text = some true := by
  simp only [matchName?, matchesNamed?, Option.map_eq_some_iff, ofName?_eq_some_iff,
    firstMatch?_eq_some_iff]
  constructor
  · rintro ⟨signature, ⟨-, start⟩, named⟩
    exact ⟨signature, named, start⟩
  · rintro ⟨signature, named, start⟩
    exact ⟨signature, ⟨by cases signature <;> decide, start⟩, named⟩

theorem matchName?_append {text : String} (matched : matchName? table buffer = some text)
    (suffix : Buffer)
    : matchName? table (buffer ++ suffix) = some text := by
  obtain ⟨signature, found, named⟩ := Option.map_eq_some_iff.mp matched
  obtain ⟨mem, start⟩ := firstMatch?_eq_some_iff.mp found
  have longer := firstMatch?_eq_some_iff.mpr ⟨mem, Buffer.startsWith_append start suffix⟩
  rw [matchName?, longer, Option.map_some, named]

/-- At most one entry of the table begins a buffer. So every order of the table tells the same name,
which is told exactly if the signature of that name begins the buffer, and still told when bytes
are appended.
-/
theorem table_unambiguous (buffer : Buffer)
    : (∀ reordered : List Signature,
        reordered.Perm all
        → (reordered.filter
            (fun signature => signature.bytes.isPrefixOf buffer.toList)).length ≤ 1
          ∧ matchName? reordered buffer = matchName? all buffer)
      ∧ (∀ text, matchName? all buffer = some text ↔ matchesNamed? buffer text = some true)
      ∧ ∀ text suffix,
          matchName? all buffer = some text
          → matchName? all (buffer ++ suffix) = some text := by
  refine ⟨?_, fun _ => matchName?_eq_some_iff, fun _ suffix matched =>
    matchName?_append matched suffix⟩
  intro reordered same
  have distinct : reordered.Nodup := same.nodup_iff.mpr (by decide)
  refine ⟨length_filter_matches_le_one distinct, ?_⟩
  rw [matchName?, matchName?, firstMatch?_eq_of_perm same]

/-- Two signatures differ in their last byte only; the table backwards tells the second one apart
as well.
-/
theorem table_unambiguous_backwards
    : let buffer : Buffer := #[0xFE, 0xED, 0xFA, 0xCF]
      all.reverse.Perm all
      ∧ matchName? all buffer = some "MACHO64"
      ∧ matchName? all.reverse buffer = some "MACHO64"
      ∧ matchesNamed? buffer "MACHO64" = some true
      ∧ matchName? all (buffer ++ #[0x4D, 0x5A]) = some "MACHO64" := by
  intro buffer
  have reordered : all.reverse.Perm all := List.reverse_perm all
  have told : matchName? all buffer = some "MACHO64" := by decide
  obtain ⟨reorder, named, append⟩ := table_unambiguous buffer
  refine ⟨reordered, told, ?_, (named _).mp told, append _ _ told⟩
  rw [(reorder all.reverse reordered).2, told]

end Bytewise.Signature

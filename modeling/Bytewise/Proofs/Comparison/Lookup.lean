import Mathlib.Data.List.Forall2
import Bytewise.Difference

/-! The lookup of bytes at positions in any order. Positions are taken one by one, and the first
negative one refuses the whole lookup; without one, each position has its entry, which tells what
both buffers hold there, if anything.
-/

namespace Bytewise

-----------------------------------------------------------------------------------------
-- The character for a byte
-----------------------------------------------------------------------------------------

theorem printable_iff (value : UInt8)
    : 32 ≤ value ∧ value ≤ 126 ↔ 32 ≤ (value.toNat : Int) ∧ (value.toNat : Int) ≤ 126 := by
  simp only [UInt8.le_iff_toNat_le, UInt8.reduceToNat]
  omega

theorem glyph_of_printable {value : UInt8} (printable : 32 ≤ value ∧ value ≤ 126)
    : glyph value.toNat = Char.ofUInt8 value := by
  have range := (printable_iff value).mp printable
  rw [glyph, if_pos range, Char.ofNat, dif_pos (Or.inl (by omega))]
  apply Char.ext
  apply UInt32.toNat_inj.mp
  rfl

theorem glyph_of_not_printable {value : UInt8} (other : ¬ (32 ≤ value ∧ value ≤ 126))
    : glyph value.toNat = '.' := by
  rw [printable_iff] at other
  rw [glyph, if_neg other]

/-- A byte is shown by its own character exactly if that is printable ASCII. Witness: all others are
shown as a point, and that is the character of a printable byte.
-/
theorem glyph_eq_own_iff (value : UInt8)
    : glyph value.toNat = Char.ofUInt8 value ↔ 32 ≤ value ∧ value ≤ 126 := by
  constructor
  · intro own
    by_contra other
    rw [glyph_of_not_printable other] at own
    have point : value = 46 := by
      apply UInt8.toNat_inj.mp
      exact (congrArg Char.toNat own).symm
    subst point
    exact other (by decide)
  · exact glyph_of_printable

theorem glyph?_of_ne_zero {value : UInt8} (nonzero : value ≠ 0)
    : glyph? (some value) = some (glyph value.toNat) := by
  simp [glyph?, Option.filter, nonzero]

/-- What stands for a buffer in an entry: the byte at the position, absent past the end, and the
character for it, absent for a zero byte as well.
-/
structure ShownAt (buffer : Buffer) (position : Nat) (byte : Option UInt8)
    (char : Option Char)
    : Prop where
  present : byte.isSome ↔ position < buffer.size
  value : ∀ inside : position < buffer.size, byte = some buffer[position]
  unshown : char = none ↔ byte = none ∨ byte = some 0
  own
    : ∀ value,
        byte = some value
        → (char = some (Char.ofUInt8 value) ↔ 32 ≤ value ∧ value ≤ 126)
  point
    : ∀ value,
        byte = some value → value ≠ 0 → ¬ (32 ≤ value ∧ value ≤ 126) → char = some '.'

/-- What is looked up at a position of a buffer is what the buffer holds there. -/
theorem shownAt_lookup (buffer : Buffer) (position : Nat)
    : ShownAt buffer position buffer[position]? (glyph? buffer[position]?) where
  present := by simp
  value := Array.getElem?_eq_getElem
  unshown := by
    cases buffer[position]? with
    | none => simp [glyph?]
    | some value =>
        by_cases zero : value = 0
        · simp [glyph?, Option.filter, zero]
        · simp [glyph?_of_ne_zero zero, zero]
  own := by
    intro value held
    rw [held]
    by_cases zero : value = 0
    · subst zero
      simp [glyph?, Option.filter]
    · rw [glyph?_of_ne_zero zero, Option.some.injEq]
      exact glyph_eq_own_iff value
  point := by
    intro value held nonzero other
    rw [held, glyph?_of_ne_zero nonzero, glyph_of_not_printable other]

-----------------------------------------------------------------------------------------
-- Positions one by one
-----------------------------------------------------------------------------------------

/-- An entry for a position tells the position and what both buffers hold there. -/
structure EntryFor (first second : Buffer) (position : Int) (entry : ByteDifference) : Prop where
  position : (entry.position : Int) = position
  side1 : ShownAt first entry.position entry.byte1 entry.char1
  side2 : ShownAt second entry.position entry.byte2 entry.char2

theorem entryFor_at {position : Int} (valid : 0 ≤ position) (first second : Buffer)
    : EntryFor first second position (.at first second position.toNat) where
  position := Int.toNat_of_nonneg valid
  side1 := shownAt_lookup first position.toNat
  side2 := shownAt_lookup second position.toNat

theorem EntryFor.valid {first second : Buffer} {position : Int} {entry : ByteDifference}
    (entryFor : EntryFor first second position entry)
    : 0 ≤ position := by
  rw [← entryFor.position]
  exact Int.natCast_nonneg entry.position

/-- What a lookup comes to: it is refused for the first negative position, or it has one entry for
each position, in the order of the positions.
-/
inductive LookedUp (first second : Buffer) (positions : List Int)
    : Except LookupError (List ByteDifference) → Prop
  | refused {before after position error} (split : positions = before ++ position :: after)
    (earlier : ∀ other ∈ before, 0 ≤ other) (negative : position < 0)
    (message : error.message = "Negative position: " ++ toString position)
    : LookedUp first second positions (.error error)
  | found {entries} (each : List.Forall₂ (EntryFor first second) positions entries)
    : LookedUp first second positions (.ok entries)

variable {first second : Buffer} {position : Int} {rest : List Int}

theorem bytesAt_cons_of_negative (negative : position < 0)
    : bytesAt first second (position :: rest) = .error (.negativePosition position) := by
  rw [bytesAt, List.find?_cons_of_pos (by simpa using negative)]

/-- A valid position adds its entry to what the positions behind it come to. -/
theorem bytesAt_cons_of_valid (valid : 0 ≤ position)
    : bytesAt first second (position :: rest)
      = (bytesAt first second rest).map (.at first second position.toNat :: ·) := by
  rw [bytesAt, bytesAt, List.find?_cons_of_neg (by simpa using valid)]
  split <;> rfl

/-- A refusal behind a valid position refuses the lookup; entries behind it stay behind its own. -/
theorem LookedUp.cons {outcome : Except LookupError (List ByteDifference)} (valid : 0 ≤ position)
    (behind : LookedUp first second rest outcome)
    : LookedUp first second (position :: rest)
        (outcome.map (.at first second position.toNat :: ·)) := by
  cases behind with
  | @refused before after other error split earlier negative message =>
      subst split
      refine .refused (List.cons_append ..).symm ?_ negative message
      intro other mem
      rcases List.mem_cons.mp mem with rfl | mem
      · exact valid
      · exact earlier other mem
  | found each => exact .found (.cons (entryFor_at valid first second) each)

/-- Every lookup comes to a refusal or to its entries, by induction on the positions. -/
theorem lookedUp_bytesAt (first second : Buffer) (positions : List Int)
    : LookedUp first second positions (bytesAt first second positions) := by
  induction positions with
  | nil => exact .found .nil
  | cons position rest ih =>
      rcases Int.lt_or_le position 0 with negative | valid
      · rw [bytesAt_cons_of_negative negative]
        exact .refused (List.nil_append _).symm (by simp) negative rfl
      · rw [bytesAt_cons_of_valid valid]
        exact ih.cons valid

/-- A position that has an entry is not negative. -/
theorem LookedUp.refused_iff {positions : List Int}
    {outcome : Except LookupError (List ByteDifference)}
    (lookedUp : LookedUp first second positions outcome)
    : (∃ error, outcome = .error error) ↔ ∃ position ∈ positions, position < 0 := by
  cases lookedUp with
  | @refused before after position error split earlier negative message =>
      subst split
      exact ⟨fun _ => ⟨position, by simp, negative⟩, fun _ => ⟨error, rfl⟩⟩
  | found each =>
      constructor
      · rintro ⟨error, failed⟩
        cases failed
      · rintro ⟨position, mem, negative⟩
        have valid := ((List.forall₂_and_left _ _).mp (each.imp fun _ _ entryFor =>
          ⟨entryFor.valid, entryFor⟩)).1
        exact absurd (valid position mem) (Int.not_le.mpr negative)

/-- A position is looked up as often as it is given, past the end of one buffer or of both. -/
example
    : bytesAt #[0x4D, 0x00] #[0xFF] [1, 0, 7, 1]
      = .ok
        [⟨1, some 0x00, none, none, none⟩, ⟨0, some 0x4D, some 0xFF, some 'M', some '.'⟩,
          ⟨7, none, none, none, none⟩, ⟨1, some 0x00, none, none, none⟩] := by
  decide

end Bytewise

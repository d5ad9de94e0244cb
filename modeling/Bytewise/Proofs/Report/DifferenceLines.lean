import Bytewise.Report.Plain
import Bytewise.Proofs.Comparison.Positions
import Bytewise.Proofs.Text.Hex

/-! The lines for differences in the plain-text report. The first differences have a line each, and
the number of those left out is told behind them. A line tells the position and both bytes: each of
its parts can be split off the front of what follows, although one character may be shown for many
bytes.
-/

namespace Bytewise

-----------------------------------------------------------------------------------------
-- Parts of a line
-----------------------------------------------------------------------------------------

/-- Texts that a separator ends, and do not hold it, are told apart by what they are followed by. -/
theorem front_eq_of_separated {separator : Char} {front other rest otherRest : List Char}
    (notIn : separator ∉ front) (notInOther : separator ∉ other)
    (same : front ++ separator :: rest = other ++ separator :: otherRest)
    : front = other ∧ rest = otherRest := by
  induction front generalizing other with
  | nil =>
      cases other with
      | nil => exact ⟨rfl, (List.cons.inj same).2⟩
      | cons c other => exact absurd (List.cons.inj same).1 (List.ne_of_not_mem_cons notInOther)
  | cons c front ih =>
      cases other with
      | nil => exact absurd (List.cons.inj same).1.symm (List.ne_of_not_mem_cons notIn)
      | cons d other =>
          obtain ⟨rfl, tails⟩ := List.cons.inj same
          obtain ⟨rfl, rests⟩ := ih (List.not_mem_of_not_mem_cons notIn)
            (List.not_mem_of_not_mem_cons notInOther) tails
          exact ⟨rfl, rests⟩

namespace Text

theorem hex_injective {width number other : Nat} (same : hex width number = hex width other)
    : number = other := by
  have value (number : Nat) : numeralValue? lowerDigit? (hex width number).toList = some number :=
    numeralValue?_hex (by decide) width number
  exact Option.some.inj ((value number).symm.trans (same ▸ value other))

/-- Filled digits hold nothing but digits. -/
theorem not_mem_hex {c : Char} (noDigit : lowerDigit? c = none) (width number : Nat)
    : c ∉ (hex width number).toList := by
  intro mem
  have value : numeralValue? lowerDigit? (hex width number).toList = some number :=
    numeralValue?_hex (by decide) width number
  have digit := isSome_of_numeralValue? (Option.isSome_iff_exists.mpr ⟨_, value⟩) mem
  simp [noDigit] at digit

end Text

namespace Report

/-- A byte is told by what is shown of it, whatever follows. Witness: an absent byte begins with
another character than the two digits of any byte, and the digits tell which character is shown.
-/
theorem byte_eq_of_sideText {byte other : Option UInt8} {rest otherRest : List Char}
    (same
      : (sideText byte (glyph? byte)).toList ++ rest
        = (sideText other (glyph? other)).toList ++ otherRest)
    : byte = other ∧ rest = otherRest := by
  have bytes : byte = other := by
    cases byte with
    | none =>
        cases other with
        | none => rfl
        | some other => simp [sideText, byteText, absent] at same
    | some byte =>
        cases other with
        | none => simp [sideText, byteText, absent] at same
        | some other =>
            have width (byte : UInt8) : (Text.hex 2 byte.toNat).toList.length = 2 :=
              Text.length_toList_hex (by decide) byte.toNat_lt
            simp only [sideText, byteText, Option.map_some, Option.getD_some, String.toList_append,
              List.append_assoc, List.append_cancel_left_eq] at same
            have digits := (List.append_inj same (by rw [width, width])).1
            have numbers := Text.hex_injective (String.toList_injective digits)
            rw [UInt8.toNat_inj.mp numbers]
  subst bytes
  exact ⟨rfl, List.append_cancel_left same⟩

/-- An entry whose characters are those of its bytes. -/
def IsEntry (entry : ByteDifference) : Prop :=
  entry.char1 = glyph? entry.byte1 ∧ entry.char2 = glyph? entry.byte2

theorem isEntry_of_mem_bytesAt {first second : Buffer} {positions : List Int}
    {entries : List ByteDifference} (found : bytesAt first second positions = .ok entries)
    {entry : ByteDifference} (mem : entry ∈ entries)
    : IsEntry entry := by
  rw [bytesAt] at found
  split at found
  case h_1 => cases found
  case h_2 =>
      cases found
      obtain ⟨position, -, rfl⟩ := List.mem_map.mp mem
      exact ⟨rfl, rfl⟩

/-- A line tells its entry's position and bytes: a colon ends the position, however many digits it
has, and each side of the line can be split off.
-/
theorem entry_eq_of_differenceLine {entry other : ByteDifference} (isEntry : IsEntry entry)
    (otherIsEntry : IsEntry other) (same : differenceLine entry = differenceLine other)
    : entry.position = other.position
      ∧ entry.byte1 = other.byte1
      ∧ entry.byte2 = other.byte2 := by
  have noColon (position : Nat) : ':' ∉ (Text.hex 8 position).toList :=
    Text.not_mem_hex (by decide) 8 position
  obtain ⟨char1, char2⟩ := isEntry
  obtain ⟨otherChar1, otherChar2⟩ := otherIsEntry
  have characters := congrArg String.toList same
  simp only [differenceLine, char1, char2, otherChar1, otherChar2, String.toList_append,
    List.append_assoc, List.append_cancel_left_eq] at characters
  obtain ⟨positions, sides⟩ :=
    front_eq_of_separated (noColon entry.position) (noColon other.position) characters
  obtain ⟨bytes1, rests⟩ := byte_eq_of_sideText (List.cons.inj sides).2
  have seconds := List.append_cancel_left rests
  have bytes2 : entry.byte2 = other.byte2 ∧ ([] : List Char) = [] :=
    byte_eq_of_sideText (by rw [seconds])
  exact ⟨Text.hex_injective (String.toList_injective positions), bytes1, bytes2.1⟩

/-- Nothing that is shown for a byte is a line break. -/
theorem glyph?_ne_lineBreak {byte : Option UInt8} {c : Char} (shown : glyph? byte = some c)
    : c ≠ '\n' := by
  obtain ⟨value, -, rfl⟩ := Option.map_eq_some_iff.mp shown
  rw [glyph]
  split
  case isTrue printable =>
      intro lineBreak
      rw [Char.ofNat, dif_pos (Or.inl (by omega))] at lineBreak
      have code : (value.toNat : Int).toNat = 10 := congrArg Char.toNat lineBreak
      omega
  case isFalse => decide

theorem lineBreak_not_mem_sideText (byte : Option UInt8)
    : '\n' ∉ (sideText byte (glyph? byte)).toList := by
  have noDigit (number : Nat) : '\n' ∉ (Text.hex 2 number).toList :=
    Text.not_mem_hex (by decide) 2 number
  cases shown : glyph? byte with
  | none => cases byte <;> simp [sideText, byteText, absent, noDigit]
  | some c =>
      have other := glyph?_ne_lineBreak shown
      cases byte <;> simp [sideText, byteText, absent, noDigit, other.symm]

/-- A line for a difference is a single one. -/
theorem lineBreak_not_mem_differenceLine {entry : ByteDifference} (isEntry : IsEntry entry)
    : '\n' ∉ (differenceLine entry).toList := by
  have noDigit : '\n' ∉ (Text.hex 8 entry.position).toList :=
    Text.not_mem_hex (by decide) 8 entry.position
  have side1 := lineBreak_not_mem_sideText entry.byte1
  have side2 := lineBreak_not_mem_sideText entry.byte2
  rw [← isEntry.1] at side1
  rw [← isEntry.2] at side2
  simp [differenceLine, noDigit, side1, side2]

-----------------------------------------------------------------------------------------
-- The listed differences
-----------------------------------------------------------------------------------------

/-- How many positions there are at which two buffers differ. -/
noncomputable def differingPositions (first second : Buffer) : Nat :=
  {position | DiffersAt first second position}.ncard

/-- What two buffers hold at the first positions at which they differ, in ascending order and no
more than some limit: any other position at which they differ is behind all of them.
-/
structure ListsFirst (limit : Nat) (first second : Buffer) (entries : List ByteDifference)
    : Prop where
  length : entries.length = min limit (differingPositions first second)
  ascending : (entries.map ByteDifference.position).Pairwise (· < ·)
  differs
    : ∀ entry ∈ entries,
        DiffersAt first second entry.position
        ∧ entry = .at first second entry.position
  others
    : ∀ position,
        DiffersAt first second position
        → position ∉ entries.map ByteDifference.position
        → ∀ entry ∈ entries, entry.position < position

theorem ListsFirst.isEntry {limit : Nat} {first second : Buffer} {entries : List ByteDifference}
    (lists : ListsFirst limit first second entries) {entry : ByteDifference} (mem : entry ∈ entries)
    : IsEntry entry := by
  rw [(lists.differs entry mem).2]
  exact ⟨rfl, rfl⟩

theorem map_position_at (first second : Buffer) (positions : List Nat)
    : (positions.map (ByteDifference.at first second)).map ByteDifference.position
      = positions := by
  rw [List.map_map]
  exact List.map_id positions

/-- The first of the listed entries are those at the first positions; witness: the positions ascend,
so those taken are before those left.
-/
theorem listsFirst_take (limit : Nat) (first second : Buffer)
    : ListsFirst limit first second
        (((differences first second).map (ByteDifference.at first second)).take limit) := by
  have ascending := pairwise_differences first second
  have positions : (((differences first second).map (ByteDifference.at first second)).take
      limit).map ByteDifference.position = (differences first second).take limit := by
    rw [← List.map_take, map_position_at]
  refine { length := ?_, ascending := ?_, differs := ?_, others := ?_ }
  · rw [List.length_take, List.length_map, length_differences, differingPositions]
  · rw [positions]
    exact ascending.sublist (List.take_sublist ..)
  · intro entry mem
    obtain ⟨position, listed, rfl⟩ := List.mem_map.mp (List.mem_of_mem_take mem)
    exact ⟨(mem_differences_iff ..).mp listed, rfl⟩
  · intro position differs missing entry mem
    rw [positions] at missing
    have taken : entry.position ∈ (differences first second).take limit := by
      rw [← positions]
      exact List.mem_map_of_mem mem
    have listed := (mem_differences_iff ..).mpr differs
    rw [← List.take_append_drop limit (differences first second)] at listed ascending
    have left := (List.mem_append.mp listed).resolve_left missing
    exact (List.pairwise_append.mp ascending).2.2 _ taken _ left

end Report

end Bytewise

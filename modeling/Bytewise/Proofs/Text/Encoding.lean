import Bytewise.Buffer.Basic

/-! Characters as the bytes that store them. The first byte of a character is never one of its later
bytes, and no character's bytes begin another's: so a text that stands in the bytes of another one
stands there character by character.
-/

namespace Bytewise.Text.Utf8

/-- The bytes that store some characters, one after the other. -/
def encode (characters : List Char) : List UInt8 :=
  characters.flatMap String.utf8EncodeChar

theorem encode_cons (character : Char) (rest : List Char)
    : encode (character :: rest) = String.utf8EncodeChar character ++ encode rest :=
  List.flatMap_cons

theorem encode_append (front rest : List Char)
    : encode (front ++ rest) = encode front ++ encode rest :=
  List.flatMap_append

/-- A buffer that stores a text holds the bytes of its characters. -/
theorem toList_ofText (text : String) : (Buffer.ofText text).toList = encode text.toList := by
  obtain ⟨characters, rfl⟩ := text.exists_eq_ofList
  rw [Buffer.ofText, String.toUTF8_eq_toByteArray, String.toByteArray_ofList, String.toList_ofList,
    encode, List.utf8Encode, List.data_toByteArray, List.toList_toArray]

-----------------------------------------------------------------------------------------
-- One character
-----------------------------------------------------------------------------------------

/-- A character has a first byte, which no later byte of a character can be mistaken for. -/
theorem exists_firstByte (character : Char)
    : ∃ first later,
        String.utf8EncodeChar character = first :: later
        ∧ first.IsUTF8FirstByte
        ∧ ∀ byte ∈ later, ¬byte.IsUTF8FirstByte := by
  have isFirst {index : Nat} (inside : index < (String.utf8EncodeChar character).length)
      : (String.utf8EncodeChar character)[index].IsUTF8FirstByte ↔ index = 0 :=
    UInt8.isUTF8FirstByte_getElem_utf8EncodeChar
  cases bytes : String.utf8EncodeChar character with
  | nil => exact absurd bytes String.utf8EncodeChar_ne_nil
  | cons first later =>
      simp only [bytes] at isFirst
      refine ⟨first, later, rfl, (isFirst (Nat.zero_lt_succ _)).mpr rfl, ?_⟩
      intro byte member
      obtain ⟨index, inside, rfl⟩ := List.getElem_of_mem member
      exact mt (isFirst (Nat.succ_lt_succ inside)).mp (Nat.succ_ne_zero index)

/-- What begins with the bytes of two characters begins with one. Witness: reading the first
character back gives either of the two.
-/
theorem eq_of_encodeChar_append {left right : Char} {behindLeft behindRight : List UInt8}
    (same
      : String.utf8EncodeChar left ++ behindLeft = String.utf8EncodeChar right ++ behindRight)
    : left = right ∧ behindLeft = behindRight := by
  have readsBack (character : Char) (behind : List UInt8)
      : ByteArray.utf8DecodeChar? (String.utf8EncodeChar character ++ behind).toByteArray 0
        = some character := by
    rw [List.toByteArray_append, ByteArray.utf8DecodeChar?_utf8EncodeChar_append]
  have character : left = right := by
    rw [← Option.some.injEq, ← readsBack left behindLeft, same, readsBack]
  subst character
  exact ⟨rfl, List.append_cancel_left same⟩

-----------------------------------------------------------------------------------------
-- A text in the bytes of another
-----------------------------------------------------------------------------------------

/-- A text that the bytes of another begin with is the front of it, by induction on the
characters.
-/
theorem front_of_encode {text held : List Char} {behind : List UInt8}
    (found : encode held = encode text ++ behind)
    : ∃ rest, held = text ++ rest ∧ encode rest = behind := by
  induction text generalizing held with
  | nil => exact ⟨held, rfl, found⟩
  | cons character text ih =>
      cases held with
      | nil =>
          rw [encode_cons, List.append_assoc] at found
          exact absurd (List.append_eq_nil_iff.mp found.symm).1 String.utf8EncodeChar_ne_nil
      | cons first held =>
          rw [encode_cons, encode_cons, List.append_assoc] at found
          obtain ⟨rfl, others⟩ := eq_of_encodeChar_append found
          obtain ⟨rest, rfl, behindRest⟩ := ih others
          exact ⟨rest, rfl, behindRest⟩

/-- A character in front of a first byte ends in front of it, for that byte is none of its later
bytes.
-/
theorem ends_before_firstByte {character : Char} {start : UInt8}
    {others before behind : List UInt8} (isFirst : start.IsUTF8FirstByte)
    (nonempty : before ≠ [])
    (found : String.utf8EncodeChar character ++ others = before ++ start :: behind)
    : ∃ between,
        before = String.utf8EncodeChar character ++ between
        ∧ others = between ++ start :: behind := by
  rcases List.append_eq_append_iff.mp found with ⟨between, ended, later⟩ | ⟨inner, bytes, later⟩
  · exact ⟨between, ended, later⟩
  · cases inner with
    | nil =>
        rw [List.append_nil] at bytes
        exact ⟨[], by rw [List.append_nil, bytes], later.symm⟩
    | cons byte inner =>
        -- The character reaches past the first byte, and would have it as one of its later bytes.
        obtain ⟨rfl, -⟩ := List.cons.inj later
        obtain ⟨first, laterBytes, split, -, notFirst⟩ := exists_firstByte character
        obtain ⟨head, front, rfl⟩ := List.exists_cons_of_ne_nil nonempty
        rw [split] at bytes
        obtain ⟨-, rfl⟩ := List.cons.inj bytes
        exact absurd isFirst (notFirst start (by simp))

/-- A text that stands somewhere in the bytes of another one stands between two of its
characters. The induction goes over the characters in front of it, each of which ends in front of
the text's first byte.
-/
theorem between_of_encode {text held : List Char} {before behind : List UInt8}
    (nonempty : text ≠ []) (found : encode held = before ++ (encode text ++ behind))
    : ∃ front rest,
        held = front ++ (text ++ rest) ∧ encode front = before ∧ encode rest = behind := by
  obtain ⟨head, tail, rfl⟩ := List.exists_cons_of_ne_nil nonempty
  obtain ⟨start, later, split, isFirst, -⟩ := exists_firstByte head
  have begins : encode (head :: tail) ++ behind = start :: (later ++ encode tail ++ behind) := by
    rw [encode_cons, split, List.cons_append, List.cons_append]
  induction held generalizing before with
  | nil =>
      rw [begins] at found
      exact absurd found.symm (by simp [encode])
  | cons character held ih =>
      by_cases atStart : before = []
      · subst atStart
        obtain ⟨rest, same, behindRest⟩ := front_of_encode found
        exact ⟨[], rest, same, rfl, behindRest⟩
      · rw [encode_cons, begins] at found
        obtain ⟨between, rfl, others⟩ := ends_before_firstByte isFirst atStart found
        obtain ⟨front, rest, rfl, same, behindRest⟩ := ih (begins ▸ others)
        refine ⟨character :: front, rest, rfl, ?_, behindRest⟩
        rw [encode_cons, same]

end Bytewise.Text.Utf8

import Bytewise.Buffer.Search
import Bytewise.Proofs.Text.Encoding

/-! The search for a pattern finds it wherever it stands. Where both the buffer and the pattern store
texts, it finds the parts of a text: nothing is found that begins or ends inside a character.
-/

namespace Bytewise.Buffer

open Text

/-- A pattern is found exactly in the buffers that consist of some bytes, the pattern and some
bytes.
-/
theorem hasInfix_iff (buffer : Buffer) (pattern : List UInt8)
    : buffer.hasInfix pattern
      ↔ ∃ before behind : List UInt8, buffer.toList = before ++ pattern ++ behind := by
  rw [hasInfix, occursIn_iff]
  exact exists₂_congr fun _ _ => eq_comm

theorem ofText_append (front rest : String)
    : ofText (front ++ rest) = ofText front ++ ofText rest := by
  rw [← Array.toList_inj, Array.toList_append, Utf8.toList_ofText, Utf8.toList_ofText,
    Utf8.toList_ofText, String.toList_append, Utf8.encode_append]

/-- What stands in front of a text that is found in another, and what stands behind it, are texts
themselves. Witness: they are the characters between which it stands.
-/
theorem between_of_ofText {held text : String} {before behind : List UInt8}
    (nonempty : text ≠ "")
    (found : (ofText held).toList = before ++ (ofText text).toList ++ behind)
    : ∃ front rest : String,
        held = front ++ text ++ rest
        ∧ (ofText front).toList = before
        ∧ (ofText rest).toList = behind := by
  rw [Utf8.toList_ofText, Utf8.toList_ofText, List.append_assoc] at found
  obtain ⟨front, rest, split, beforeFront, behindRest⟩ :=
    Utf8.between_of_encode (mt String.toList_eq_nil_iff.mp nonempty) found
  refine ⟨String.ofList front, String.ofList rest, ?_, ?_, ?_⟩
  · rw [← String.toList_inj, String.toList_append, String.toList_append, String.toList_ofList,
      String.toList_ofList, split, List.append_assoc]
  · rw [Utf8.toList_ofText, String.toList_ofList, beforeFront]
  · rw [Utf8.toList_ofText, String.toList_ofList, behindRest]

/-- A text is found in another one exactly if it is a part of it. The empty text needs no place: it
stands in front of every other.
-/
theorem hasText_ofText_iff (held text : String)
    : (ofText held).hasText text ↔ ∃ front rest : String, held = front ++ text ++ rest := by
  rw [hasText, hasInfix_iff]
  constructor
  · rintro ⟨before, behind, found⟩
    by_cases empty : text = ""
    · exact ⟨"", held, by rw [empty, String.empty_append, String.empty_append]⟩
    · obtain ⟨front, rest, split, -⟩ := between_of_ofText empty found
      exact ⟨front, rest, split⟩
  · rintro ⟨front, rest, rfl⟩
    refine ⟨(ofText front).toList, (ofText rest).toList, ?_⟩
    rw [ofText_append, ofText_append, Array.toList_append, Array.toList_append]

/-- The search is exact for patterns of bytes in any buffer, and for texts in the bytes of a text,
where a place at which a text is found has a text in front of it and one behind it.
-/
theorem search_exact
    : (∀ (buffer : Buffer) (pattern : List UInt8),
        buffer.hasInfix pattern
        ↔ ∃ before behind : List UInt8, buffer.toList = before ++ pattern ++ behind)
      ∧ ∀ held text : String,
          ((ofText held).hasText text ↔ ∃ front rest : String, held = front ++ text ++ rest)
          ∧ (text ≠ ""
            → ∀ before behind : List UInt8,
                (ofText held).toList = before ++ (ofText text).toList ++ behind
                → ∃ front rest : String,
                    held = front ++ text ++ rest
                    ∧ (ofText front).toList = before
                    ∧ (ofText rest).toList = behind) :=
  ⟨hasInfix_iff, fun held text =>
    ⟨hasText_ofText_iff held text, fun nonempty _ _ => between_of_ofText nonempty⟩⟩

/-- Characters of one, two, three and four bytes: two of them are found between the other two. -/
theorem search_exact_wideCharacters
    : let held := "aé€𝄞"
      let text := "é€"
      text ≠ ""
      ∧ (ofText held).toList = [0x61] ++ (ofText text).toList ++ [0xF0, 0x9D, 0x84, 0x9E]
      ∧ (ofText held).hasText text
      ∧ ∃ front rest : String,
          held = front ++ text ++ rest
          ∧ (ofText front).toList = [0x61]
          ∧ (ofText rest).toList = [0xF0, 0x9D, 0x84, 0x9E] := by
  intro held text
  have nonempty : text ≠ "" := by decide
  have found
      : (ofText held).toList = [0x61] ++ (ofText text).toList ++ [0xF0, 0x9D, 0x84, 0x9E] := by
    decide
  obtain ⟨part_iff, between⟩ := search_exact.2 held text
  obtain ⟨front, rest, split, around⟩ := between nonempty _ _ found
  exact ⟨nonempty, found, part_iff.mpr ⟨front, rest, split⟩, front, rest, split, around⟩

end Bytewise.Buffer

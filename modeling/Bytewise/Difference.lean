import Bytewise.Buffer.Basic

/-! Where two buffers differ, and which bytes they hold there. A position past the end of one
buffer differs if it lies inside the other.
-/

namespace Bytewise

/-- The positions at which both buffers hold a byte, but not the same one, in ascending order. -/
def clashes (first second : Buffer) : List Nat :=
  ((first.toList.zip second.toList).zipIdx.filter (fun entry => entry.1.1 != entry.1.2)).map
    Prod.snd

/-- The positions that lie inside only one of two buffers, in ascending order. -/
def overhang (first second : Buffer) : List Nat :=
  List.range' (min first.size second.size)
    (max first.size second.size - min first.size second.size)

/-- The positions at which two buffers differ, in ascending order: those that both hold a byte at,
then the end of the longer one.
-/
def differences (first second : Buffer) : List Nat :=
  clashes first second ++ overhang first second

/-- A clash is a pair of different bytes at one position; witness: the pairs are numbered by their
positions.
-/
theorem mem_clashes (first second : Buffer) (position : Nat)
    : position ∈ clashes first second
      ↔ ∃ byte1 byte2,
          first[position]? = some byte1 ∧ second[position]? = some byte2 ∧ byte1 ≠ byte2 := by
  simp only [clashes, List.mem_map, List.mem_filter, List.mem_zipIdx_iff_getElem?,
    List.getElem?_zip_eq_some, Array.getElem?_toList, bne_iff_ne, ne_eq]
  constructor
  · rintro ⟨⟨⟨byte1, byte2⟩, _⟩, ⟨⟨found1, found2⟩, differ⟩, rfl⟩
    exact ⟨byte1, byte2, found1, found2, differ⟩
  · rintro ⟨byte1, byte2, found1, found2, differ⟩
    exact ⟨⟨⟨byte1, byte2⟩, position⟩, ⟨⟨found1, found2⟩, differ⟩, rfl⟩

/-- A position hangs over when it is past the end of the shorter buffer only. -/
theorem mem_overhang (first second : Buffer) (position : Nat)
    : position ∈ overhang first second
      ↔ min first.size second.size ≤ position ∧ position < max first.size second.size := by
  simp only [overhang, List.mem_range'_1]
  omega

/-- A position is listed exactly when the buffers differ there; witness: before the shorter end
that is a clash, from there on an overhang, and past both ends both bytes are absent.
-/
theorem mem_differences (first second : Buffer) (position : Nat)
    : position ∈ differences first second ↔ first[position]? ≠ second[position]? := by
  simp only [differences, List.mem_append, mem_clashes, mem_overhang]
  by_cases inFirst : position < first.size <;> by_cases inSecond : position < second.size
  · simp only [Array.getElem?_eq_getElem inFirst, Array.getElem?_eq_getElem inSecond,
      Option.some.injEq, ne_eq]
    constructor
    · rintro (⟨byte1, byte2, rfl, rfl, differ⟩ | past)
      · exact differ
      · omega
    · intro differ
      exact Or.inl ⟨_, _, rfl, rfl, differ⟩
  · simp [Array.getElem?_eq_getElem inFirst, Array.getElem?_eq_none (Nat.le_of_not_lt inSecond)]
    omega
  · simp [Array.getElem?_eq_none (Nat.le_of_not_lt inFirst), Array.getElem?_eq_getElem inSecond]
    omega
  · simp [Array.getElem?_eq_none (Nat.le_of_not_lt inFirst),
      Array.getElem?_eq_none (Nat.le_of_not_lt inSecond)]
    omega

/-- The character that shows a byte: its own if it is printable ASCII, else a point. -/
def glyph (byte : Int) : Char :=
  if 32 ≤ byte ∧ byte ≤ 126 then Char.ofNat byte.toNat else '.'

/-- The character that shows what a buffer holds at a position. A zero byte is shown like an
absent one.
-/
def glyph? (byte : Option UInt8) : Option Char :=
  (byte.filter (· != 0)).map (fun byte => glyph byte.toNat)

/-- What two buffers hold at one position. -/
structure ByteDifference where
  position : Nat
  byte1 : Option UInt8
  byte2 : Option UInt8
  char1 : Option Char
  char2 : Option Char
deriving DecidableEq, Repr

def ByteDifference.at (first second : Buffer) (position : Nat) : ByteDifference where
  position := position
  byte1 := first[position]?
  byte2 := second[position]?
  char1 := glyph? first[position]?
  char2 := glyph? second[position]?

/-- Why bytes cannot be looked up. -/
inductive LookupError where
  | negativePosition (position : Int)
deriving DecidableEq, Repr

def LookupError.message : LookupError → String
  | .negativePosition position => "Negative position: " ++ toString position

/-- What two buffers hold at the given positions, unless one of them is negative. -/
def bytesAt (first second : Buffer) (positions : List Int)
    : Except LookupError (List ByteDifference) :=
  match positions.find? (· < 0) with
  | some position => .error (.negativePosition position)
  | none => .ok (positions.map (fun position => .at first second position.toNat))

end Bytewise

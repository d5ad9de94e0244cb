import Bytewise.Pe.SectionTable
import Bytewise.Proofs.Buffer.Pieces

/-! Portable executables laid out from their header fields and sections, over any background: what
the reading of headers is compared with.
-/

namespace Bytewise.Pe

/-- A section to be laid out: its name of at most eight bytes, its size and its flags. -/
structure SectionPlan where
  name : List UInt8
  size : UInt32
  flags : UInt32
  name_le : name.length ≤ 8

/-- The header fields of an image, the places of its headers and its sections. The header does not
overlap the pointer to it, and the optional header reaches to the end of the entry point.
-/
structure Blueprint where
  machine : UInt16
  characteristics : UInt16
  magic : UInt16
  entryPoint : UInt32
  offset : Nat
  optionalHeaderSize : Nat
  sections : List SectionPlan
  le_offset : 0x40 ≤ offset
  offset_lt : offset < 0x100000000
  le_optionalHeaderSize : 20 ≤ optionalHeaderSize
  optionalHeaderSize_lt : optionalHeaderSize < 0x10000
  sections_lt : sections.length < 0x10000

namespace SectionPlan

/-- The name, filled up with zeros to eight bytes. -/
def nameField (plan : SectionPlan) : List UInt8 :=
  plan.name ++ List.replicate (8 - plan.name.length) 0

/-- The used bytes of a table entry at an offset. -/
def pieces (plan : SectionPlan) (offset : Nat) : List Piece :=
  [⟨offset, plan.nameField⟩,
    ⟨offset + 16, littleBytes 4 plan.size.toNat⟩,
    ⟨offset + 36, littleBytes 4 plan.flags.toNat⟩]

/-- The used bytes of a table that begins at an offset. -/
def tablePieces : (offset : Nat) → List SectionPlan → List Piece
  | _, [] => []
  | offset, plan :: rest => plan.pieces offset ++ tablePieces (offset + 40) rest

/-- What is to be reported of the section. -/
def described (plan : SectionPlan) : Section where
  name := Text.ofLatin1 (plan.name.takeWhile (· != 0))
  size := plan.size.toNat
  description := sectionDescription plan.flags.toNat

end SectionPlan

namespace Blueprint

def table (plan : Blueprint) : Nat :=
  plan.offset + 24 + plan.optionalHeaderSize

/-- The used bytes in front of the section table. -/
def headerPieces (plan : Blueprint) : List Piece :=
  [⟨0, [0x4D, 0x5A]⟩,
    ⟨0x3C, littleBytes 4 plan.offset⟩,
    ⟨plan.offset, [0x50, 0x45, 0x00, 0x00]⟩,
    ⟨plan.offset + 4, littleBytes 2 plan.machine.toNat⟩,
    ⟨plan.offset + 6, littleBytes 2 plan.sections.length⟩,
    ⟨plan.offset + 20, littleBytes 2 plan.optionalHeaderSize⟩,
    ⟨plan.offset + 22, littleBytes 2 plan.characteristics.toNat⟩,
    ⟨plan.offset + 24, littleBytes 2 plan.magic.toNat⟩,
    ⟨plan.offset + 40, littleBytes 4 plan.entryPoint.toNat⟩]

def pieces (plan : Blueprint) : List Piece :=
  plan.headerPieces ++ SectionPlan.tablePieces plan.table plan.sections

/-- The size of an image with some padding behind its section table. -/
def imageSize (plan : Blueprint) (padding : Nat) : Nat :=
  plan.table + 40 * plan.sections.length + padding

/-- A buffer of the image's size with background bytes only. -/
def blank (plan : Blueprint) (background : Nat → UInt8) (padding : Nat) : Buffer :=
  (Array.range (plan.imageSize padding)).map background

/-- The image: the used bytes written over a background that shows through everywhere else. -/
def encode (plan : Blueprint) (background : Nat → UInt8) (padding : Nat) : Buffer :=
  (plan.blank background padding).writeAll plan.pieces

end Blueprint

-----------------------------------------------------------------------------------------
-- The pieces of a layout follow each other without overlap
-----------------------------------------------------------------------------------------

/-- A name field has eight bytes; witness: the name has no more. -/
@[simp]
theorem SectionPlan.length_nameField (plan : SectionPlan) : plan.nameField.length = 8 := by
  have le := plan.name_le
  rw [nameField, List.length_append, List.length_replicate]
  omega

/-- The pieces of a table are in order up to its end, by induction on its sections. -/
theorem SectionPlan.tablePieces_ordered {offset limit : Nat} {plans : List SectionPlan}
    (inside : offset + 40 * plans.length ≤ limit)
    : Piece.Ordered offset (tablePieces offset plans) limit := by
  induction plans generalizing offset with
  | nil => simpa [tablePieces, Piece.Ordered] using inside
  | cons plan rest ih =>
      rw [List.length_cons] at inside
      have tail : Piece.Ordered (offset + 40) (tablePieces (offset + 40) rest) limit :=
        ih (by omega)
      have entry : Piece.Ordered offset (plan.pieces offset) (offset + 40) := by
        simp [pieces, Piece.Ordered, Piece.stop]
      exact entry.append tail

namespace Blueprint

/-- The pieces in front of the table are in order; witness: the bounds on the two places. -/
theorem headerPieces_ordered (plan : Blueprint)
    : Piece.Ordered 0 plan.headerPieces plan.table := by
  have := plan.le_offset
  have := plan.le_optionalHeaderSize
  simp only [headerPieces, Piece.Ordered, Piece.stop, table, length_littleBytes, List.length_cons,
    List.length_nil]
  omega

theorem size_blank (plan : Blueprint) (background : Nat → UInt8) (padding : Nat)
    : (plan.blank background padding).size = plan.imageSize padding := by
  rw [blank, Array.size_map, Array.size_range]

theorem pieces_ordered (plan : Blueprint) (background : Nat → UInt8) (padding : Nat)
    : Piece.Ordered 0 plan.pieces (plan.blank background padding).size := by
  rw [size_blank]
  refine plan.headerPieces_ordered.append (SectionPlan.tablePieces_ordered ?_)
  rw [imageSize]
  omega

theorem size_encode (plan : Blueprint) (background : Nat → UInt8) (padding : Nat)
    : (plan.encode background padding).size = plan.imageSize padding := by
  rw [encode, Buffer.size_writeAll (plan.pieces_ordered background padding), size_blank]

/-- Every used byte is in the image at its place. -/
theorem isIn_encode (plan : Blueprint) (background : Nat → UInt8) (padding : Nat)
    : ∀ piece ∈ plan.pieces, piece.IsIn (plan.encode background padding) :=
  Buffer.isIn_writeAll (plan.pieces_ordered background padding)

end Blueprint

end Bytewise.Pe

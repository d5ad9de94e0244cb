import Bytewise.Inspect
import Bytewise.Proofs.Inspect.Recognition
import Bytewise.Proofs.Pe.Blueprint
import Bytewise.Proofs.Text.Hex

/-! Reading a portable executable that was laid out from a blueprint gives the blueprint back: its
header fields, and what is reported of its sections.
-/

namespace Bytewise.Pe

/-- Zeros behind a name do not change what stands before its first zero. -/
theorem takeWhile_append_zeros (name : List UInt8) (count : Nat)
    : (name ++ List.replicate count 0).takeWhile (· != 0) = name.takeWhile (· != 0) := by
  induction name with
  | nil => cases count <;> simp [List.replicate_succ]
  | cons byte rest ih => simp only [List.cons_append, List.takeWhile_cons, ih]

/-- A table entry that holds a section's pieces is reported as that section. -/
theorem sectionOfEntry_of_isIn {image : Buffer} {offset : Nat} {entry : List UInt8}
    {plan : SectionPlan}
    (present : ∀ piece ∈ plan.pieces offset, piece.IsIn image)
    (found : image.slice? offset 40 = some entry)
    : sectionOfEntry entry = plan.described := by
  have nameIn : Piece.IsIn ⟨offset + 0, plan.nameField⟩ image :=
    present _ (by simp [SectionPlan.pieces])
  have sizeIn : Piece.IsIn ⟨offset + 16, littleBytes 4 plan.size.toNat⟩ image :=
    present _ (by simp [SectionPlan.pieces])
  have flagsIn : Piece.IsIn ⟨offset + 36, littleBytes 4 plan.flags.toNat⟩ image :=
    present _ (by simp [SectionPlan.pieces])
  have name := nameIn.of_record found (by simp)
  have size := sizeIn.of_record found (by simp)
  have flags := flagsIn.of_record found (by simp)
  rw [SectionPlan.length_nameField, List.drop_zero] at name
  rw [length_littleBytes] at size flags
  have sizeFits : plan.size.toNat < 256 ^ 4 := plan.size.toNat_lt
  have flagsFit : plan.flags.toNat < 256 ^ 4 := plan.flags.toNat_lt
  simp only [sectionOfEntry, sectionName, ByteOrder.field, ByteOrder.value, name, size, flags,
    SectionPlan.nameField, takeWhile_append_zeros, littleValue_littleBytes_of_lt sizeFits,
    littleValue_littleBytes_of_lt flagsFit, SectionPlan.described]

/-- The first sections of a table that lies in the image are reported in their order, by induction
on the planned sections.
-/
theorem sectionsFrom_of_isIn {image : Buffer} {offset count : Nat} {plans : List SectionPlan}
    (present : ∀ piece ∈ SectionPlan.tablePieces offset plans, piece.IsIn image)
    (inside : offset + 40 * plans.length ≤ image.size) (enough : count ≤ plans.length)
    : sectionsFrom image offset count = (plans.take count).map SectionPlan.described := by
  induction plans generalizing offset count with
  | nil =>
      have none : count = 0 := Nat.le_zero.mp enough
      subst none
      rfl
  | cons plan rest ih =>
      cases count with
      | zero => rfl
      | succ count =>
          rw [List.length_cons] at inside enough
          obtain ⟨entry, found⟩ := Option.isSome_iff_exists.mp
            ((Buffer.slice?_isSome_iff image offset 40).mpr (by omega))
          have first : sectionOfEntry entry = plan.described := by
            apply sectionOfEntry_of_isIn _ found
            intro piece member
            exact present piece (List.mem_append_left _ member)
          have others : sectionsFrom image (offset + 40) count
              = (rest.take count).map SectionPlan.described := by
            refine ih ?_ (by omega) (by omega)
            intro piece member
            exact present piece (List.mem_append_right _ member)
          rw [sectionsFrom, sectionEntrySize, found]
          simp only [List.take_succ_cons, List.map_cons, first, others]

namespace Blueprint

def header (plan : Blueprint) : Header where
  machine := some plan.machine.toNat
  sectionCount := some plan.sections.length
  optionalHeaderSize := some plan.optionalHeaderSize
  characteristics := some plan.characteristics.toNat
  magic := some plan.magic.toNat
  entryPoint := some plan.entryPoint.toNat

section Decoding

variable {plan : Blueprint} {image : Buffer}

/-- An image that holds the blueprint's pieces begins with the executables' signature. -/
theorem matchesStart_of_isIn (present : ∀ piece ∈ plan.headerPieces, piece.IsIn image)
    : Signature.mz.matchesStart image := by
  have magic : Piece.IsIn ⟨0, Signature.mz.bytes⟩ image :=
    present _ (by simp [headerPieces, Signature.bytes])
  exact Buffer.startsWith_of_slice? magic

theorem locate?_of_isIn (present : ∀ piece ∈ plan.headerPieces, piece.IsIn image)
    : locate? image = some plan.offset := by
  have pointerIn : Piece.IsIn ⟨0x3C, littleBytes 4 plan.offset⟩ image :=
    present _ (by simp [headerPieces])
  have signatureIn : Piece.IsIn ⟨plan.offset, signature⟩ image :=
    present _ (by simp [headerPieces, signature])
  have pointer : image.u32? headerPointer = some plan.offset := pointerIn.read? plan.offset_lt
  have found : image.slice? plan.offset 4 = some signature := signatureIn
  rw [locate?, pointer, Option.filter_some, if_pos (decide_eq_true found)]

/-- Its header fields are read as the blueprint has them; witness: each stands in its piece. -/
theorem read_of_isIn (present : ∀ piece ∈ plan.headerPieces, piece.IsIn image)
    : Header.read image plan.offset = plan.header := by
  have read (offset width number : Nat)
      (member : ⟨offset, littleBytes width number⟩ ∈ plan.headerPieces)
      (fits : number < 256 ^ width)
      : image.read? .little width offset = some number :=
    (present _ member).read? fits
  simp only [Header.read, header, Buffer.u16?, Buffer.u32?]
  rw [read (plan.offset + 4) 2 plan.machine.toNat (by simp [headerPieces]) plan.machine.toNat_lt,
    read (plan.offset + 6) 2 plan.sections.length (by simp [headerPieces]) plan.sections_lt,
    read (plan.offset + 20) 2 plan.optionalHeaderSize (by simp [headerPieces])
      plan.optionalHeaderSize_lt,
    read (plan.offset + 22) 2 plan.characteristics.toNat (by simp [headerPieces])
      plan.characteristics.toNat_lt,
    read (plan.offset + 24) 2 plan.magic.toNat (by simp [headerPieces]) plan.magic.toNat_lt,
    read (plan.offset + 40) 4 plan.entryPoint.toNat (by simp [headerPieces])
      plan.entryPoint.toNat_lt]

/-- Its sections are reported in their order, as many as are shown. -/
theorem sections_of_isIn (present : ∀ piece ∈ plan.pieces, piece.IsIn image)
    (inside : plan.table + 40 * plan.sections.length ≤ image.size)
    : Pe.sections image plan.offset plan.header
      = (plan.sections.take 20).map SectionPlan.described := by
  have tablePresent : ∀ piece ∈ SectionPlan.tablePieces plan.table plan.sections,
      piece.IsIn image :=
    fun piece member => present piece (List.mem_append_right _ member)
  have count : min plan.sections.length 20 ≤ plan.sections.length := Nat.min_le_left ..
  rw [List.take_eq_take_min, Nat.min_comm, ← sectionsFrom_of_isIn tablePresent inside count]
  rfl

end Decoding

/-- An image laid out from a blueprint, over any background and with any padding, is classified as
the executable that the blueprint describes, and the blueprint is what its structure tells.
-/
theorem inspect_encode (plan : Blueprint) (background : Nat → UInt8) (padding : Nat)
    : let image := plan.encode background padding
      let subtype := Pe.subtype (some plan.characteristics.toNat)
      let machine := Pe.machineName (some plan.machine.toNat)
      let found := Structure.extractTyped image (classify image)
      classify image
        = {
            format := .windowsExecutable
            description := "Windows " ++ subtype ++ " (" ++ machine ++ ")"
            subtype := some subtype
            architecture := some machine
          }
      ∧ found.architecture = some (if plan.magic = 0x20B then "64-bit" else "32-bit")
      ∧ (∃ numeral,
          found.entryPoint = some ("0x" ++ numeral)
          ∧ Text.IsNumeral Text.upperDigit? numeral.toList plan.entryPoint.toNat)
      ∧ found.sections = some ((plan.sections.take 20).map SectionPlan.described)
      ∧ found.headers = none := by
  intro image subtype machine found
  have present : ∀ piece ∈ plan.pieces, piece.IsIn image := plan.isIn_encode background padding
  have headerPresent : ∀ piece ∈ plan.headerPieces, piece.IsIn image :=
    fun piece member => present piece (List.mem_append_left _ member)
  have start := matchesStart_of_isIn headerPresent
  have located := locate?_of_isIn headerPresent
  have header := read_of_isIn headerPresent
  have inside : plan.table + 40 * plan.sections.length ≤ image.size := by
    rw [size_encode, imageSize]
    omega
  have classified : classify image = .windowsExecutable plan.header := by
    rw [classify_of_matchesStart start, classifySigned, located]
    exact congrArg FileType.windowsExecutable header
  have extracted : found = Structure.ofPe image plan.offset := by
    simp only [found, Structure.extractTyped, classified]
    exact Structure.extract_windowsExecutable start located
  have magic : plan.magic.toNat = wideMagic ↔ plan.magic = 0x20B := by
    rw [← UInt16.toNat_inj]
    rfl
  refine ⟨classified, ?_, ?_, ?_, ?_⟩
  · simp only [extracted, Structure.ofPe, header, Header.architecture, Blueprint.header,
      Option.some.injEq, magic]
  · refine ⟨Text.upperHex plan.entryPoint.toNat, ?_, Text.upperHex_isNumeral _⟩
    simp only [extracted, Structure.ofPe, header, Blueprint.header, Option.map_some]
  · simp only [extracted, Structure.ofPe, header, sections_of_isIn present inside]
  · simp only [extracted, Structure.ofPe]

/-- A blueprint with one section, whose name has a zero inside and a byte past ASCII. -/
def oneSection : Blueprint where
  machine := 0x8664
  characteristics := 0x22
  magic := 0x20B
  entryPoint := 0x1400
  offset := 0x80
  optionalHeaderSize := 0xF0
  sections :=
    [{
      name := [0x2E, 0xE9, 0, 0x78]
      size := 0x200
      flags := 0x20
      name_le := by decide
    }]
  le_offset := by decide
  offset_lt := by decide
  le_optionalHeaderSize := by decide
  optionalHeaderSize_lt := by decide
  sections_lt := by decide

/-- The name of that section is reported up to its zero. -/
theorem sections_encode_oneSection
    : let image := oneSection.encode (fun _ => 0xCC) 3
      (Structure.extractTyped image (classify image)).sections
        = some [{ name := ".é", size := 0x200, description := sectionDescription 0x20 }] := by
  intro image
  exact (inspect_encode oneSection (fun _ => 0xCC) 3).2.2.2.1.trans (by decide)

end Blueprint

end Bytewise.Pe

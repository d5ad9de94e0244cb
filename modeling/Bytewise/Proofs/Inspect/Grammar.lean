import Mathlib.Logic.ExistsUnique
import Mathlib.Tactic.IntervalCases
import Bytewise.Proofs.Buffer.Pieces
import Bytewise.Proofs.Dispatch
import Bytewise.Proofs.Inspect.TextShare

/-! The grammar of formats: what a buffer of each format looks like, said without the order in which
classification asks. Every buffer has exactly one of the formats, and classification tells it.
-/

namespace Bytewise

namespace Buffer

def Begins (buffer : Buffer) (bytes : List UInt8) : Prop :=
  bytes <+: buffer.toList

/-- Whether bytes stand in a buffer from a place on, all of them inside it. -/
def HoldsAt (buffer : Buffer) (place : Nat) (bytes : List UInt8) : Prop :=
  ∃ front back, buffer.toList = front ++ bytes ++ back ∧ front.length = place

/-- Whether a text stands anywhere in a buffer. -/
def Holds (buffer : Buffer) (text : String) : Prop :=
  (ofText text).toList <:+: buffer.toList

/-- Whether a buffer holds one of some texts, and none of those that are looked for before. -/
def HoldsFirst (buffer : Buffer) (before texts : List String) : Prop :=
  (∃ text ∈ texts, buffer.Holds text) ∧ ∀ text ∈ before, ¬ buffer.Holds text

end Buffer

-----------------------------------------------------------------------------------------
-- The grammar
-----------------------------------------------------------------------------------------

/-- Whether a buffer has a header of the newer kind: it stores an offset of four bytes at `0x3C`,
and the four bytes of the header's signature stand there.
-/
def HasPeHeader (buffer : Buffer) : Prop :=
  64 ≤ buffer.size
  ∧ ∃ offset < 2 ^ 32,
      buffer.HoldsAt 0x3C (littleBytes 4 offset)
      ∧ buffer.HoldsAt offset [0x50, 0x45, 0x00, 0x00]

def IsArchive (buffer : Buffer) : Prop :=
  buffer.Begins [0x50, 0x4B, 0x03, 0x04]

/-- Whether a buffer begins with no signature. -/
def Unsigned (buffer : Buffer) : Prop :=
  ∀ signature : Signature, ¬ buffer.Begins signature.bytes

/-- How many of a buffer's bytes are looked at to tell whether it is text. -/
def sampleSize (buffer : Buffer) : Nat :=
  min buffer.size 1024

/-- How many of those are printable ASCII characters, tabs or line ends. -/
def textBytes (buffer : Buffer) : Nat :=
  (buffer.toList.take 1024).countP
    (fun byte => (32 ≤ byte ∧ byte ≤ 126) ∨ byte = 9 ∨ byte = 10 ∨ byte = 13)

/-- Whether a buffer is text: without a signature, and with text bytes for more than nine tenths of
the sample.
-/
def IsText (buffer : Buffer) : Prop :=
  Unsigned buffer ∧ 9 * sampleSize buffer < 10 * textBytes buffer

/-- What a buffer of each format looks like. -/
def HasFormat (buffer : Buffer) : Format → Prop
  | .windowsExecutable => buffer.Begins [0x4D, 0x5A] ∧ HasPeHeader buffer
  | .dosExecutable => buffer.Begins [0x4D, 0x5A] ∧ ¬ HasPeHeader buffer
  | .elf => buffer.Begins [0x7F, 0x45, 0x4C, 0x46]
  | .machO =>
      buffer.Begins [0xFE, 0xED, 0xFA, 0xCE] ∨ buffer.Begins [0xFE, 0xED, 0xFA, 0xCF]
  | .docx => IsArchive buffer ∧ buffer.HoldsFirst [] ["word/document.xml"]
  | .xlsx => IsArchive buffer ∧ buffer.HoldsFirst ["word/document.xml"] ["xl/workbook.xml"]
  | .pptx =>
      IsArchive buffer
      ∧ buffer.HoldsFirst ["word/document.xml", "xl/workbook.xml"] ["ppt/presentation.xml"]
  | .jar =>
      IsArchive buffer
      ∧ buffer.HoldsFirst ["word/document.xml", "xl/workbook.xml", "ppt/presentation.xml"]
          ["META-INF/MANIFEST.MF"]
  | .apk =>
      IsArchive buffer
      ∧ buffer.HoldsFirst
          ["word/document.xml", "xl/workbook.xml", "ppt/presentation.xml",
            "META-INF/MANIFEST.MF"]
          ["AndroidManifest.xml"]
  | .zip =>
      IsArchive buffer
      ∧ ∀ text ∈ ["word/document.xml", "xl/workbook.xml", "ppt/presentation.xml",
            "META-INF/MANIFEST.MF", "AndroidManifest.xml"],
          ¬ buffer.Holds text
  | .pdf => buffer.Begins [0x25, 0x50, 0x44, 0x46]
  | .jpeg => buffer.Begins [0xFF, 0xD8, 0xFF]
  | .png => buffer.Begins [0x89, 0x50, 0x4E, 0x47]
  | .gif => buffer.Begins [0x47, 0x49, 0x46, 0x38]
  | .javaClass => buffer.Begins [0xCA, 0xFE, 0xBA, 0xBE]
  | .xml => IsText buffer ∧ buffer.HoldsFirst [] ["<?xml"]
  | .html => IsText buffer ∧ buffer.HoldsFirst ["<?xml"] ["<!DOCTYPE html", "<html"]
  | .script =>
      IsText buffer ∧ buffer.HoldsFirst ["<?xml", "<!DOCTYPE html", "<html"] ["#!/"]
  | .text =>
      IsText buffer
      ∧ ∀ text ∈ ["<?xml", "<!DOCTYPE html", "<html", "#!/"], ¬ buffer.Holds text
  | .binary => Unsigned buffer ∧ 10 * textBytes buffer ≤ 9 * sampleSize buffer

-----------------------------------------------------------------------------------------
-- Beginnings and headers
-----------------------------------------------------------------------------------------

/-- A slice of a buffer is what the buffer holds at its place; witness: the rest of the buffer
stands around it.
-/
theorem Buffer.slice?_eq_some_iff_holdsAt {buffer : Buffer} {place : Nat} {bytes : List UInt8}
    : buffer.slice? place bytes.length = some bytes ↔ buffer.HoldsAt place bytes := by
  constructor
  · intro found
    have inside := (slice?_eq_some_iff.mp found).1
    rw [slice?, if_pos inside, Option.some.injEq, Array.toList_extract, List.extract_eq_take_drop,
      Nat.add_sub_cancel_left] at found
    refine ⟨buffer.toList.take place, buffer.toList.drop (place + bytes.length), ?_, ?_⟩
    · calc buffer.toList
        _ = buffer.toList.take place
            ++ ((buffer.toList.drop place).take bytes.length
              ++ (buffer.toList.drop place).drop bytes.length) := by
          rw [List.take_append_drop, List.take_append_drop]
        _ = buffer.toList.take place ++ bytes ++ buffer.toList.drop (place + bytes.length) := by
          rw [found, List.drop_drop, List.append_assoc]
    · rw [List.length_take, Array.length_toList]
      omega
  · rintro ⟨front, back, whole, rfl⟩
    have size : buffer.size = front.length + bytes.length + back.length := by
      rw [← Array.length_toList, whole, List.length_append, List.length_append]
    refine slice?_eq_some_iff.mpr ⟨by omega, rfl, ?_⟩
    intro index below
    rw [← Array.getElem?_toList, whole, List.append_assoc, List.getElem?_append_right (by omega),
      Nat.add_sub_cancel_left, List.getElem?_append_left below]

/-- A header is located exactly when there is one of the newer kind. -/
theorem Pe.exists_locate?_iff (buffer : Buffer)
    : (∃ offset, locate? buffer = some offset) ↔ HasPeHeader buffer := by
  constructor
  · rintro ⟨offset, located⟩
    obtain ⟨pointer, signed⟩ := Option.filter_eq_some_iff.mp located
    obtain ⟨stored, found, rfl⟩ := Option.map_eq_some_iff.mp pointer
    obtain ⟨inside, length, -⟩ := Buffer.slice?_eq_some_iff.mp found
    have fits : littleValue stored < 2 ^ 32 := by
      have lt := littleValue_lt stored
      rwa [length] at lt
    have bytes : littleBytes 4 (littleValue stored) = stored := by
      rw [← length, littleBytes_littleValue]
    refine ⟨inside, littleValue stored, fits, ?_, ?_⟩
    · rw [bytes, ← Buffer.slice?_eq_some_iff_holdsAt, length]
      exact found
    · exact Buffer.slice?_eq_some_iff_holdsAt.mp (of_decide_eq_true signed)
  · rintro ⟨-, offset, fits, pointer, signed⟩
    have stored : Piece.IsIn ⟨0x3C, littleBytes 4 offset⟩ buffer :=
      Buffer.slice?_eq_some_iff_holdsAt.mpr pointer
    have found : buffer.slice? offset 4 = some signature :=
      Buffer.slice?_eq_some_iff_holdsAt.mpr signed
    exact ⟨offset, Option.filter_eq_some_iff.mpr ⟨stored.read? fits, decide_eq_true found⟩⟩

theorem classify_of_begins (signature : Signature) {buffer : Buffer}
    (begins : buffer.Begins signature.bytes)
    : classify buffer = classifySigned buffer signature :=
  classify_of_matchesStart ((Buffer.startsWith_iff _ _).mpr begins)

theorem classify_of_unsigned {buffer : Buffer} (unsigned : Unsigned buffer)
    : classify buffer
      = if isProbablyText buffer then firstMarked textMarkers .textFile buffer
        else .binaryData := by
  have unmatched : Signature.match? buffer = none := by
    refine List.find?_eq_none.mpr ?_
    intro signature _ start
    exact unsigned signature ((Buffer.startsWith_iff _ _).mp start)
  rw [classify, unmatched]

/-- A buffer is text by the counts of its sample; witness: the same bytes are counted. -/
theorem isProbablyText_iff (buffer : Buffer)
    : isProbablyText buffer ↔ 9 * sampleSize buffer < 10 * textBytes buffer := by
  have sample : buffer.clip 0 textSampleSize = buffer.toList.take 1024 := by
    rw [Buffer.clip, Array.toList_extract, List.extract_eq_take_drop, List.drop_zero]
    rfl
  have count : (buffer.toList.take 1024).countP isTextByte = textBytes buffer := by
    refine List.countP_congr ?_
    intro byte _
    simp only [isTextByte, Bool.or_eq_true, Bool.and_eq_true, decide_eq_true_eq, beq_iff_eq,
      or_assoc]
  rw [isProbablyText, isTextSample, decide_eq_true_eq, sample, count, List.length_take,
    Array.length_toList, Nat.min_comm]
  rfl

-----------------------------------------------------------------------------------------
-- Markers
-----------------------------------------------------------------------------------------

section Markers

variable {markers : List Marker} {buffer : Buffer}

theorem Marker.isIn_iff (marker : Marker)
    : marker.isIn buffer ↔ ∃ text ∈ marker.texts, buffer.Holds text := by
  simp only [isIn, List.any_eq_true, Buffer.hasText, Buffer.hasInfix, occursIn_iff, Buffer.Holds]

theorem Marker.not_isIn {marker : Marker} (absent : ∀ text ∈ marker.texts, ¬ buffer.Holds text)
    : ¬ marker.isIn buffer := by
  rw [isIn_iff]
  rintro ⟨text, listed, held⟩
  exact absent text listed held

/-- A search stops at the marker of which a text is held, and none of the texts before it; by
induction on the markers.
-/
theorem firstMarked_of_holdsFirst {index : Nat} {marker : Marker}
    (listed : markers[index]? = some marker)
    (first : buffer.HoldsFirst ((markers.take index).flatMap Marker.texts) marker.texts)
    (fallback : FileType)
    : firstMarked markers fallback buffer = marker.fileType := by
  induction markers generalizing index with
  | nil =>
      rw [List.getElem?_nil] at listed
      cases listed
  | cons head rest ih =>
      rw [firstMarked_cons]
      cases index with
      | zero =>
          cases listed
          rw [if_pos (marker.isIn_iff.mpr first.1)]
      | succ index =>
          rw [List.take_succ_cons, List.flatMap_cons] at first
          obtain ⟨held, absent⟩ := first
          have skipped : ¬ head.isIn buffer :=
            Marker.not_isIn (fun text mem => absent text (List.mem_append_left _ mem))
          rw [if_neg skipped]
          exact ih listed ⟨held, fun text mem => absent text (List.mem_append_right _ mem)⟩

/-- A search that finds no text tells its fallback. -/
theorem firstMarked_of_absent
    (absent : ∀ text ∈ markers.flatMap Marker.texts, ¬ buffer.Holds text)
    (fallback : FileType)
    : firstMarked markers fallback buffer = fallback := by
  have unmarked : markers.find? (fun marker => marker.isIn buffer) = none := by
    refine List.find?_eq_none.mpr ?_
    intro marker listed
    exact Marker.not_isIn (fun text mem => absent text (List.mem_flatMap_of_mem listed mem))
  rw [firstMarked, unmarked]
  rfl

/-- Of the texts that are searched for, none is held or one of them is the first; by induction on
the markers.
-/
theorem holdsFirst_cases (markers : List Marker) (buffer : Buffer)
    : (∀ text ∈ markers.flatMap Marker.texts, ¬ buffer.Holds text)
      ∨ ∃ index marker,
          markers[index]? = some marker
          ∧ buffer.HoldsFirst ((markers.take index).flatMap Marker.texts) marker.texts := by
  induction markers with
  | nil => exact Or.inl (List.forall_mem_nil _)
  | cons head rest ih =>
      by_cases held : ∃ text ∈ head.texts, buffer.Holds text
      · exact Or.inr ⟨0, head, rfl, held, List.forall_mem_nil _⟩
      · have skipped : ∀ text ∈ head.texts, ¬ buffer.Holds text :=
          fun text mem holds => held ⟨text, mem, holds⟩
        rcases ih with absent | ⟨index, marker, listed, found, absent⟩
        · left
          rw [List.flatMap_cons]
          exact List.forall_mem_append.mpr ⟨skipped, absent⟩
        · refine Or.inr ⟨index + 1, marker, listed, found, ?_⟩
          rw [List.take_succ_cons, List.flatMap_cons]
          exact List.forall_mem_append.mpr ⟨skipped, absent⟩

end Markers

-----------------------------------------------------------------------------------------
-- Classification by the grammar
-----------------------------------------------------------------------------------------

theorem hasFormat_archive {buffer : Buffer} (archive : IsArchive buffer)
    : HasFormat buffer (firstMarked archiveMarkers .zipArchive buffer).format := by
  rcases holdsFirst_cases archiveMarkers buffer with absent | ⟨index, marker, listed, first⟩
  · rw [firstMarked_of_absent absent]
    exact ⟨archive, absent⟩
  · have below : index < 5 := (List.getElem?_eq_some_iff.mp listed).1
    rw [firstMarked_of_holdsFirst listed first]
    interval_cases index <;> cases listed <;> exact ⟨archive, first⟩

theorem hasFormat_text {buffer : Buffer} (text : IsText buffer)
    : HasFormat buffer (firstMarked textMarkers .textFile buffer).format := by
  rcases holdsFirst_cases textMarkers buffer with absent | ⟨index, marker, listed, first⟩
  · rw [firstMarked_of_absent absent]
    exact ⟨text, absent⟩
  · have below : index < 3 := (List.getElem?_eq_some_iff.mp listed).1
    rw [firstMarked_of_holdsFirst listed first]
    interval_cases index <;> cases listed <;> exact ⟨text, first⟩

/-- A buffer has the format that it is classified by: its signature's own, or one of the formats
without a signature.
-/
theorem hasFormat_classify (buffer : Buffer) : HasFormat buffer (classify buffer).format := by
  cases matched : Signature.match? buffer with
  | some signature =>
      have start := Signature.match?_eq_some_iff.mp matched
      have begins : buffer.Begins signature.bytes := (Buffer.startsWith_iff _ _).mp start
      rw [classify_of_matchesStart start]
      cases signature with
      | mz =>
          rw [classifySigned]
          cases located : Pe.locate? buffer with
          | some offset =>
              exact ⟨begins, (Pe.exists_locate?_iff buffer).mp ⟨offset, located⟩⟩
          | none =>
              refine ⟨begins, ?_⟩
              rw [← Pe.exists_locate?_iff, located]
              rintro ⟨_, ⟨⟩⟩
      | zip => exact hasFormat_archive begins
      | machO32 => exact Or.inl begins
      | machO64 => exact Or.inr begins
      | elf | pdf | jpeg | png | gif | javaClass => exact begins
  | none =>
      have unsigned : Unsigned buffer := by
        intro signature begins
        have start : signature.matchesStart buffer := (Buffer.startsWith_iff _ _).mpr begins
        rw [Signature.match?_eq_some_iff.mpr start] at matched
        cases matched
      rw [classify_of_unsigned unsigned]
      by_cases text : isProbablyText buffer
      · rw [if_pos text]
        exact hasFormat_text ⟨unsigned, (isProbablyText_iff buffer).mp text⟩
      · rw [if_neg text]
        rw [isProbablyText_iff, Nat.not_lt] at text
        exact ⟨unsigned, text⟩

theorem classify_archive {buffer : Buffer} (archive : IsArchive buffer) (index : Nat)
    {marker : Marker} (listed : archiveMarkers[index]? = some marker)
    (first
      : buffer.HoldsFirst ((archiveMarkers.take index).flatMap Marker.texts) marker.texts)
    : (classify buffer).format = marker.fileType.format := by
  rw [classify_of_begins .zip archive, classifySigned, firstMarked_of_holdsFirst listed first]

theorem classify_text {buffer : Buffer} (text : IsText buffer)
    : classify buffer = firstMarked textMarkers .textFile buffer := by
  rw [classify_of_unsigned text.1, if_pos ((isProbablyText_iff buffer).mpr text.2)]

theorem classify_markedText {buffer : Buffer} (text : IsText buffer) (index : Nat)
    {marker : Marker} (listed : textMarkers[index]? = some marker)
    (first : buffer.HoldsFirst ((textMarkers.take index).flatMap Marker.texts) marker.texts)
    : (classify buffer).format = marker.fileType.format := by
  rw [classify_text text, firstMarked_of_holdsFirst listed first]

/-- A buffer is classified by any format that it has. -/
theorem classify_of_hasFormat {buffer : Buffer} {format : Format}
    (fits : HasFormat buffer format)
    : (classify buffer).format = format := by
  cases format with
  | windowsExecutable =>
      obtain ⟨begins, header⟩ := fits
      obtain ⟨offset, located⟩ := (Pe.exists_locate?_iff buffer).mpr header
      rw [classify_of_begins .mz begins, classifySigned, located]
      rfl
  | dosExecutable =>
      obtain ⟨begins, headless⟩ := fits
      cases located : Pe.locate? buffer with
      | some offset => exact absurd ((Pe.exists_locate?_iff buffer).mp ⟨offset, located⟩) headless
      | none =>
          rw [classify_of_begins .mz begins, classifySigned, located]
          rfl
  | machO =>
      rcases fits with begins | begins
      · rw [classify_of_begins .machO32 begins]
        rfl
      · rw [classify_of_begins .machO64 begins]
        rfl
  | elf => exact congrArg FileType.format (classify_of_begins .elf fits)
  | pdf => exact congrArg FileType.format (classify_of_begins .pdf fits)
  | jpeg => exact congrArg FileType.format (classify_of_begins .jpeg fits)
  | png => exact congrArg FileType.format (classify_of_begins .png fits)
  | gif => exact congrArg FileType.format (classify_of_begins .gif fits)
  | javaClass => exact congrArg FileType.format (classify_of_begins .javaClass fits)
  | docx => exact classify_archive fits.1 0 rfl fits.2
  | xlsx => exact classify_archive fits.1 1 rfl fits.2
  | pptx => exact classify_archive fits.1 2 rfl fits.2
  | jar => exact classify_archive fits.1 3 rfl fits.2
  | apk => exact classify_archive fits.1 4 rfl fits.2
  | zip =>
      have absent : ∀ text ∈ archiveMarkers.flatMap Marker.texts, ¬ buffer.Holds text := fits.2
      rw [classify_of_begins .zip fits.1, classifySigned, firstMarked_of_absent absent]
      rfl
  | xml => exact classify_markedText fits.1 0 rfl fits.2
  | html => exact classify_markedText fits.1 1 rfl fits.2
  | script => exact classify_markedText fits.1 2 rfl fits.2
  | text =>
      have absent : ∀ text ∈ textMarkers.flatMap Marker.texts, ¬ buffer.Holds text := fits.2
      rw [classify_text fits.1, firstMarked_of_absent absent]
      rfl
  | binary =>
      obtain ⟨unsigned, fewer⟩ := fits
      rw [← Nat.not_lt, ← isProbablyText_iff] at fewer
      rw [classify_of_unsigned unsigned, if_neg fewer]
      rfl

/-- A buffer is classified by a format exactly when it has the format, and it has exactly one. The
share of text bytes may as well be told by binary numbers, of the quotient and of nine tenths.
-/
theorem classify_by_grammar (buffer : Buffer)
    : (∀ format, (classify buffer).format = format ↔ HasFormat buffer format)
      ∧ (∃! format, HasFormat buffer format)
      ∧ (10 * textBytes buffer ≤ 9 * sampleSize buffer
          ↔ (Binary64.nearest false ⟨textBytes buffer, sampleSize buffer⟩).value
            ≤ (Binary64.nearest false ⟨9, 10⟩).value) := by
  refine ⟨?_, ?_, ?_⟩
  · intro format
    constructor
    · rintro rfl
      exact hasFormat_classify buffer
    · exact classify_of_hasFormat
  · refine ⟨(classify buffer).format, hasFormat_classify buffer, ?_⟩
    intro other fits
    exact (classify_of_hasFormat fits).symm
  · have within : textBytes buffer ≤ sampleSize buffer := by
      refine Nat.le_trans List.countP_le_length ?_
      rw [List.length_take, Array.length_toList, Nat.min_comm]
      exact Nat.le_refl _
    exact (Binary64.nearest_le_nineTenths_iff within (Nat.min_le_right ..)).symm

end Bytewise

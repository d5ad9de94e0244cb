import Bytewise.Proofs.Inspect.Truncation

/-! Classification of a buffer that grows at its end. From the size of the text sample on, the way
that classification goes stays the same, and so does its outcome, except that a search for
markers may stop at an earlier one and that a portable executable may come to light.
-/

namespace Bytewise

-----------------------------------------------------------------------------------------
-- The way that classification goes
-----------------------------------------------------------------------------------------

/-- What decides how a buffer is classified. -/
inductive Dispatch where
  | signed (signature : Signature)
  | text
  | binary
deriving DecidableEq, Repr

def dispatch (buffer : Buffer) : Dispatch :=
  match Signature.match? buffer with
  | some signature => .signed signature
  | none => if isProbablyText buffer then .text else .binary

/-- The file type of a buffer that goes the given way. -/
def Dispatch.fileType (buffer : Buffer) : Dispatch → FileType
  | .signed signature => classifySigned buffer signature
  | .text => firstMarked textMarkers .textFile buffer
  | .binary => .binaryData

theorem classify_eq_fileType_dispatch (buffer : Buffer)
    : classify buffer = (dispatch buffer).fileType buffer := by
  rw [classify, dispatch]
  cases Signature.match? buffer with
  | some signature => rfl
  | none => cases isProbablyText buffer <;> rfl

theorem match?_of_dispatch {buffer : Buffer} {signature : Signature}
    (way : dispatch buffer = .signed signature)
    : Signature.match? buffer = some signature := by
  rw [dispatch] at way
  split at way
  · next matched =>
      cases way
      exact matched
  · split at way <;> cases way

theorem Signature.match?_append {buffer : Buffer} (large : 4 ≤ buffer.size) (suffix : Buffer)
    : match? (buffer ++ suffix) = match? buffer := by
  have same (signature : Signature)
      : signature.matchesStart (buffer ++ suffix) = signature.matchesStart buffer := by
    have short : signature.bytes.length ≤ 4 := by cases signature <;> decide
    rw [matchesStart, Buffer.startsWith, Buffer.clip_append_of_le (Nat.le_trans short large)]
    rfl
  simp only [match?, firstMatch?, same]

theorem dispatch_append {buffer : Buffer} (large : 1024 ≤ buffer.size) (suffix : Buffer)
    : dispatch (buffer ++ suffix) = dispatch buffer := by
  have sample : isProbablyText (buffer ++ suffix) = isProbablyText buffer := by
    rw [isProbablyText, Buffer.clip_append_of_le (show textSampleSize ≤ buffer.size from large)]
    rfl
  rw [dispatch, Signature.match?_append (by omega), sample]
  rfl

-----------------------------------------------------------------------------------------
-- Searches for markers
-----------------------------------------------------------------------------------------

/-- Whether one entry of a list stands at the place of another one or before it. -/
def NoLater {α : Type} (order : List α) (first second : α) : Prop :=
  ∃ place later : Nat,
    place ≤ later ∧ order[place]? = some first ∧ order[later]? = some second

theorem NoLater.map {α β : Type} {order : List α} {first second : α}
    (noLater : NoLater order first second) (image : α → β)
    : NoLater (order.map image) (image first) (image second) := by
  obtain ⟨place, later, le, atPlace, atLater⟩ := noLater
  exact ⟨place, later, le, by simp [atPlace], by simp [atLater]⟩

theorem Marker.isIn_append {marker : Marker} {buffer : Buffer} (held : marker.isIn buffer)
    (suffix : Buffer)
    : marker.isIn (buffer ++ suffix) := by
  obtain ⟨text, listed, occurs⟩ := List.any_eq_true.mp held
  refine List.any_eq_true.mpr ⟨text, listed, ?_⟩
  rw [Buffer.hasText, Buffer.hasInfix, occursIn_iff] at occurs ⊢
  rw [Array.toList_append]
  exact occurs.trans (List.prefix_append _ _).isInfix

/-- More bytes can only let a search stop earlier, by induction on its markers: those that the
buffer holds stay in it.
-/
theorem firstMarked_append (markers : List Marker) (fallback : FileType)
    (buffer suffix : Buffer)
    : NoLater (markers.map Marker.fileType ++ [fallback])
        (firstMarked markers fallback (buffer ++ suffix))
        (firstMarked markers fallback buffer) := by
  induction markers with
  | nil => exact ⟨0, 0, Nat.le_refl _, rfl, rfl⟩
  | cons marker markers ih =>
      obtain ⟨place, later, le, atPlace, atLater⟩ := ih
      rw [firstMarked_cons, firstMarked_cons]
      by_cases held : marker.isIn buffer
      · rw [if_pos held, if_pos (Marker.isIn_append held suffix)]
        exact ⟨0, 0, Nat.le_refl _, rfl, rfl⟩
      · rw [if_neg held]
        by_cases found : marker.isIn (buffer ++ suffix)
        · rw [if_pos found]
          exact ⟨0, later + 1, Nat.zero_le _, rfl, atLater⟩
        · rw [if_neg found]
          exact ⟨place + 1, later + 1, Nat.succ_le_succ le, atPlace, atLater⟩

-----------------------------------------------------------------------------------------
-- Headers
-----------------------------------------------------------------------------------------

/-- The file type of a portable executable is told by two fields of its header. -/
theorem FileType.windowsExecutable_congr {header other : Pe.Header}
    (machine : header.machine = other.machine)
    (characteristics : header.characteristics = other.characteristics)
    : windowsExecutable header = windowsExecutable other := by
  simp only [windowsExecutable, Pe.Header.subtype, Pe.Header.machineName, machine, characteristics]

theorem windowsExecutable_read_append {buffer : Buffer} {offset : Nat}
    (inside : offset + 24 ≤ buffer.size) (suffix : Buffer)
    : FileType.windowsExecutable (Pe.Header.read (buffer ++ suffix) offset)
      = FileType.windowsExecutable (Pe.Header.read buffer offset) :=
  FileType.windowsExecutable_congr (Buffer.read?_append_of_le (by omega) suffix .little)
    (Buffer.read?_append_of_le (by omega) suffix .little)

theorem elf_append {buffer : Buffer} (inside : 18 ≤ buffer.size) (suffix : Buffer)
    : FileType.elf (Elf.typeName (buffer ++ suffix)) (Elf.className? (buffer ++ suffix))
      = FileType.elf (Elf.typeName buffer) (Elf.className? buffer) := by
  simp only [Elf.typeName, Elf.className?, Buffer.u8?, Buffer.u16?,
    Buffer.read?_append_of_le (show 16 + 2 ≤ buffer.size from inside) suffix,
    Buffer.read?_append_of_le (show 4 + 1 ≤ buffer.size by omega) suffix]

-----------------------------------------------------------------------------------------
-- Growth
-----------------------------------------------------------------------------------------

/-- The formats of archives in the order in which their markers are searched for. -/
def archiveOrder : List Format := [.docx, .xlsx, .pptx, .jar, .apk, .zip]

/-- The formats of texts in the order in which their markers are searched for. -/
def textOrder : List Format := [.xml, .html, .script, .text]

/-- What a buffer that goes a given way keeps of its file type when it has become longer. -/
def Keeps (buffer longer : Buffer) : Dispatch → Prop
  | .signed .mz =>
      ((classify buffer).format = .windowsExecutable
        → (classify longer).format = .windowsExecutable)
      ∧ ∀ offset,
          Pe.locate? buffer = some offset
          → offset + 24 ≤ buffer.size
          → classify longer = classify buffer
  | .signed .zip => NoLater archiveOrder (classify longer).format (classify buffer).format
  | .text => NoLater textOrder (classify longer).format (classify buffer).format
  | .signed _ | .binary => classify longer = classify buffer

theorem keeps_mz {buffer : Buffer} (matched : Signature.match? buffer = some .mz)
    (suffix : Buffer)
    : Keeps buffer (buffer ++ suffix) (.signed .mz) := by
  have start := Signature.match?_eq_some_iff.mp matched
  have longerStart : Signature.mz.matchesStart (buffer ++ suffix) :=
    Buffer.startsWith_append start suffix
  constructor
  · intro format
    obtain ⟨-, offset, located⟩ := (classify_format_windowsExecutable_iff buffer).mp format
    exact (classify_format_windowsExecutable_iff _).mpr
      ⟨longerStart, offset, Pe.locate?_append located suffix⟩
  · intro offset located inside
    rw [classify_of_matchesStart start, classify_of_matchesStart longerStart, classifySigned,
      classifySigned, located, Pe.locate?_append located suffix]
    exact windowsExecutable_read_append inside suffix

/-- From the size of the text sample on, a buffer to which bytes are appended goes the same way and
keeps what this way keeps.
-/
theorem classify_append {buffer : Buffer} (large : 1024 ≤ buffer.size) (suffix : Buffer)
    : dispatch (buffer ++ suffix) = dispatch buffer
      ∧ Keeps buffer (buffer ++ suffix) (dispatch buffer) := by
  have sameWay := dispatch_append large suffix
  refine ⟨sameWay, ?_⟩
  have classified := classify_eq_fileType_dispatch buffer
  have longerClassified := classify_eq_fileType_dispatch (buffer ++ suffix)
  rw [sameWay] at longerClassified
  cases way : dispatch buffer with
  | signed signature =>
      rw [way] at classified longerClassified
      cases signature with
      | mz => exact keeps_mz (match?_of_dispatch way) suffix
      | zip =>
          rw [Keeps, classified, longerClassified]
          exact (firstMarked_append archiveMarkers .zipArchive buffer suffix).map FileType.format
      | elf =>
          change classify (buffer ++ suffix) = classify buffer
          rw [classified, longerClassified]
          exact elf_append (by omega) suffix
      | machO32 | machO64 | pdf | jpeg | png | gif | javaClass =>
          change classify (buffer ++ suffix) = classify buffer
          rw [classified, longerClassified]
          rfl
  | text =>
      rw [way] at classified longerClassified
      rw [Keeps, classified, longerClassified]
      exact (firstMarked_append textMarkers .textFile buffer suffix).map FileType.format
  | binary =>
      rw [way] at classified longerClassified
      rw [Keeps, classified, longerClassified]
      rfl

/-- An archive of the text sample's size that lists nothing. -/
def blankArchive : Buffer :=
  #[0x50, 0x4B, 0x03, 0x04] ++ Array.replicate 1020 0

/-- No marker of an archive is in it; witness: each of their names has a dot. -/
theorem not_isIn_blankArchive {marker : Marker} (listed : marker ∈ archiveMarkers)
    : ¬ marker.isIn blankArchive := by
  have dotted : ∀ marker ∈ archiveMarkers, ∀ text ∈ marker.texts,
      0x2E ∈ (Buffer.ofText text).toList := by
    decide
  intro held
  obtain ⟨text, named, occurs⟩ := List.any_eq_true.mp held
  have dot := ((occursIn_iff _ _).mp occurs).subset (dotted marker listed text named)
  rw [blankArchive, Array.toList_append, List.mem_append, Array.toList_replicate] at dot
  rcases dot with signature | zero
  · exact absurd signature (by decide)
  · exact absurd (List.eq_of_mem_replicate zero) (by decide)

/-- The name of a document, appended to that archive, can only move it forward in the order of
archives: to the first place from the last.
-/
theorem classify_append_documentName
    : let document := blankArchive ++ Buffer.ofText "word/document.xml"
      1024 ≤ blankArchive.size
      ∧ dispatch blankArchive = .signed .zip
      ∧ dispatch document = dispatch blankArchive
      ∧ Keeps blankArchive document (dispatch blankArchive)
      ∧ classify blankArchive = { format := .zip, description := "ZIP Archive" }
      ∧ classify document = { format := .docx, description := "Microsoft Word Document" } := by
  intro document
  have large : 1024 ≤ blankArchive.size := by simp [blankArchive]
  have matched : Signature.match? blankArchive = some .zip :=
    Signature.match?_eq_some_iff.mpr (Buffer.startsWith_append (by decide) _)
  have way : dispatch blankArchive = .signed .zip := by rw [dispatch, matched]
  have grown : dispatch document = dispatch blankArchive
      ∧ Keeps blankArchive document (dispatch blankArchive) := classify_append large _
  refine ⟨large, way, and_assoc.mp ⟨grown, ?_, ?_⟩⟩
  · rw [classify_eq_fileType_dispatch, way]
    show firstMarked archiveMarkers .zipArchive blankArchive = _
    rw [firstMarked, List.find?_eq_none.mpr (fun _ => not_isIn_blankArchive)]
    rfl
  · have held : document.hasText "word/document.xml" := by
      rw [Buffer.hasText, Buffer.hasInfix, occursIn_iff, Array.toList_append]
      exact (List.suffix_append _ _).isInfix
    rw [classify_eq_fileType_dispatch, grown.1, way]
    show firstMarked archiveMarkers .zipArchive document = _
    rw [archiveMarkers, firstMarked_cons, if_pos (by simp [Marker.isIn, held])]

end Bytewise

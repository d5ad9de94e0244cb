import Bytewise.Classify
import Bytewise.Proofs.Buffer.Slices

/-! The dispatch of classification: at most one signature fits a buffer, and the two formats of
executable images come from their own signatures only.
-/

namespace Bytewise

namespace Signature

/-- No signature begins like another; witness: all pairs of them. -/
theorem eq_of_bytes_begin {first second : Signature}
    (begins : first.bytes <+: second.bytes)
    : first = second := by
  revert begins
  cases first <;> cases second <;> decide

/-- A buffer has at most one signature. Witness: of two beginnings of one list, one begins the
other.
-/
theorem eq_of_matchesStart {first second : Signature} {buffer : Buffer}
    (one : first.matchesStart buffer) (other : second.matchesStart buffer)
    : first = second := by
  have prefixOne := (Buffer.startsWith_iff _ _).mp one
  have prefixOther := (Buffer.startsWith_iff _ _).mp other
  rcases List.prefix_or_prefix_of_prefix prefixOne prefixOther with begins | begins
  · exact eq_of_bytes_begin begins
  · exact (eq_of_bytes_begin begins).symm

theorem matchesStart_of_match? {buffer : Buffer} {signature : Signature}
    (found : match? buffer = some signature)
    : signature.matchesStart buffer := by
  have tested := List.find?_some found
  exact tested

/-- The signature found for a buffer is the one that it begins with. -/
theorem match?_eq_some_iff {buffer : Buffer} {signature : Signature}
    : match? buffer = some signature ↔ signature.matchesStart buffer := by
  constructor
  · exact matchesStart_of_match?
  · intro start
    cases found : match? buffer with
    | none =>
        have unmatched := List.find?_eq_none.mp found signature (by cases signature <;> decide)
        exact absurd start unmatched
    | some other =>
        rw [eq_of_matchesStart (matchesStart_of_match? found) start]

end Signature

theorem classify_of_matchesStart {buffer : Buffer} {signature : Signature}
    (start : signature.matchesStart buffer)
    : classify buffer = classifySigned buffer signature := by
  rw [classify, Signature.match?_eq_some_iff.mpr start]

theorem firstMarked_cons (marker : Marker) (markers : List Marker) (fallback : FileType)
    (buffer : Buffer)
    : firstMarked (marker :: markers) fallback buffer
      = if marker.isIn buffer then marker.fileType
        else firstMarked markers fallback buffer := by
  cases held : marker.isIn buffer <;> simp [firstMarked, held]

/-- What a search for markers tells is the fallback or comes from one of the markers. -/
theorem firstMarked_cases (markers : List Marker) (fallback : FileType) (buffer : Buffer)
    : firstMarked markers fallback buffer = fallback
      ∨ ∃ marker ∈ markers, firstMarked markers fallback buffer = marker.fileType := by
  cases found : markers.find? (fun marker => marker.isIn buffer) with
  | none => exact Or.inl (by simp [firstMarked, found])
  | some marker =>
      exact Or.inr ⟨marker, List.mem_of_find?_eq_some found, by simp [firstMarked, found]⟩

/-- Whether images of the format have a structure that is read. -/
def Format.isImage (format : Format) : Bool :=
  format = .windowsExecutable || format = .elf

/-- A search tells no image if neither its markers nor its fallback do. -/
theorem firstMarked_not_isImage {markers : List Marker} {fallback : FileType}
    (none : ∀ marker ∈ markers, marker.fileType.format.isImage = false)
    (neither : fallback.format.isImage = false) (buffer : Buffer)
    : (firstMarked markers fallback buffer).format.isImage = false := by
  rcases firstMarked_cases markers fallback buffer with same | ⟨marker, member, same⟩
  · rw [same]
    exact neither
  · rw [same]
    exact none marker member

theorem classify_not_isImage_of_unmatched {buffer : Buffer}
    (unmatched : Signature.match? buffer = none)
    : (classify buffer).format.isImage = false := by
  simp only [classify, unmatched]
  split
  · exact firstMarked_not_isImage (by decide) rfl buffer
  · rfl

/-- Of the signatures, only the two of executables tell an image. -/
theorem classifySigned_not_isImage {signature : Signature} (notMz : signature ≠ .mz)
    (notElf : signature ≠ .elf) (buffer : Buffer)
    : (classifySigned buffer signature).format.isImage = false := by
  cases signature with
  | mz => exact absurd rfl notMz
  | elf => exact absurd rfl notElf
  | zip => exact firstMarked_not_isImage (by decide) rfl buffer
  | machO32 | machO64 | pdf | jpeg | png | gif | javaClass => rfl

/-- A buffer that is classified as an image has one of the two signatures of executables. -/
theorem matchesStart_of_isImage {buffer : Buffer} (image : (classify buffer).format.isImage)
    : Signature.mz.matchesStart buffer ∨ Signature.elf.matchesStart buffer := by
  cases found : Signature.match? buffer with
  | none =>
      rw [classify_not_isImage_of_unmatched found] at image
      cases image
  | some signature =>
      have start := Signature.match?_eq_some_iff.mp found
      rw [classify_of_matchesStart start] at image
      by_cases mz : signature = .mz
      · exact Or.inl (mz ▸ start)
      · by_cases elf : signature = .elf
        · exact Or.inr (elf ▸ start)
        · rw [classifySigned_not_isImage mz elf buffer] at image
          cases image

/-- A buffer is a portable executable when it has the signature and a header can be located. -/
theorem classify_format_windowsExecutable_iff (buffer : Buffer)
    : (classify buffer).format = .windowsExecutable
      ↔ Signature.mz.matchesStart buffer ∧ ∃ offset, Pe.locate? buffer = some offset := by
  constructor
  · intro format
    have image : (classify buffer).format.isImage := by
      rw [format]
      rfl
    rcases matchesStart_of_isImage image with start | start
    · refine ⟨start, ?_⟩
      rw [classify_of_matchesStart start] at format
      cases located : Pe.locate? buffer with
      | none =>
          rw [classifySigned, located] at format
          cases format
      | some offset => exact ⟨offset, rfl⟩
    · rw [classify_of_matchesStart start] at format
      cases format
  · rintro ⟨start, offset, located⟩
    rw [classify_of_matchesStart start, classifySigned, located]
    rfl

/-- A buffer is an ELF image exactly when it has the signature. -/
theorem classify_format_elf_iff (buffer : Buffer)
    : (classify buffer).format = .elf ↔ Signature.elf.matchesStart buffer := by
  constructor
  · intro format
    have image : (classify buffer).format.isImage := by
      rw [format]
      rfl
    rcases matchesStart_of_isImage image with start | start
    · rw [classify_of_matchesStart start, classifySigned] at format
      split at format <;> cases format
    · exact start
  · intro start
    rw [classify_of_matchesStart start]
    rfl

end Bytewise

import Bytewise.Proofs.Buffer.Agreement
import Bytewise.Proofs.Buffer.LittleEndian

/-! Reads at offsets of any sign and size. A number is read exactly where all of its bytes lie inside
the buffer; it is the one that these bytes store, and no other byte of the buffer plays a part.
-/

namespace Bytewise.Buffer

/-- What makes a reader of numbers of `width` bytes exact, wherever it is asked to read. -/
structure ReadsExactly (width : Nat) (read : Buffer → Int → Option Nat) : Prop where
  isSome_iff
    : ∀ buffer offset,
        (read buffer offset).isSome ↔ 0 ≤ offset ∧ offset + width ≤ (buffer.size : Int)
  fits : ∀ {buffer offset number}, read buffer offset = some number → number < 256 ^ width
  stored
    : ∀ {buffer offset number},
        read buffer offset = some number
        → (buffer.extract offset.toNat (offset.toNat + width)).toList = littleBytes width number
  appended
    : ∀ {buffer offset number},
        read buffer offset = some number
        → ∀ suffix, read (buffer ++ suffix) offset = some number
  altered
    : ∀ {buffer offset number},
        read buffer offset = some number
        → ∀ other : Buffer,
            buffer.AgreeOn other offset.toNat width → read other offset = some number

variable {buffer : Buffer} {offset : Int} {width number : Nat}

/-- A number is read where the bytes that store it are the slice at the offset. -/
theorem readAt?_eq_some_iff
    : buffer.readAt? width offset = some number
      ↔ 0 ≤ offset
        ∧ number < 256 ^ width
        ∧ buffer.slice? offset.toNat width = some (littleBytes width number) := by
  cases offset with
  | negSucc before => simp [readAt?]
  | ofNat offset =>
      rw [readAt?, read?, Option.map_eq_some_iff]
      constructor
      · rintro ⟨bytes, found, rfl⟩
        obtain rfl := length_of_slice? found
        refine ⟨Int.natCast_nonneg offset, littleValue_lt bytes, ?_⟩
        rw [ByteOrder.value, littleBytes_littleValue]
        exact found
      · rintro ⟨-, fits, found⟩
        exact ⟨_, found, littleValue_littleBytes_of_lt fits⟩

/-- A number is read exactly where it begins and ends inside the buffer. -/
theorem readAt?_isSome_iff
    : (buffer.readAt? width offset).isSome ↔ 0 ≤ offset ∧ offset + width ≤ buffer.size := by
  cases offset with
  | negSucc before => simp [readAt?]
  | ofNat offset =>
      rw [readAt?, read?, Option.isSome_map, slice?_isSome_iff, Int.ofNat_eq_natCast]
      omega

/-- Every width that takes up a byte is read exactly. -/
theorem readsExactly_readAt? (positive : 0 < width)
    : ReadsExactly width (fun buffer => buffer.readAt? width) where
  isSome_iff _ _ := readAt?_isSome_iff
  fits found := (readAt?_eq_some_iff.mp found).2.1
  stored found := by
    obtain ⟨-, -, present⟩ := readAt?_eq_some_iff.mp found
    have inside := (slice?_eq_some_iff.mp present).1
    rw [slice?, if_pos inside] at present
    exact Option.some.inj present
  appended found suffix := by
    obtain ⟨inFront, fits, present⟩ := readAt?_eq_some_iff.mp found
    exact readAt?_eq_some_iff.mpr ⟨inFront, fits, slice?_append present suffix⟩
  altered found other agree := by
    obtain ⟨inFront, fits, present⟩ := readAt?_eq_some_iff.mp found
    exact readAt?_eq_some_iff.mpr ⟨inFront, fits, slice?_of_agree agree positive present⟩

/-- A byte is compared with both ends of the buffer, a wider number only where it ends: for one byte
the two tests come to the same.
-/
theorem byteAt?_eq_readAt? (buffer : Buffer) (offset : Int)
    : buffer.byteAt? offset = buffer.readAt? 1 offset := by
  cases offset with
  | negSucc before => exact if_neg (by omega)
  | ofNat offset =>
      rw [byteAt?, readAt?, read?, slice?_one, Option.map_map, Int.ofNat_eq_natCast,
        Int.toNat_natCast]
      split
      case isTrue inside => rfl
      case isFalse behind => rw [Array.getElem?_eq_none (by omega), Option.map_none]

theorem readsExactly_byteAt? : ReadsExactly 1 byteAt? := by
  have same : byteAt? = fun buffer => buffer.readAt? 1 :=
    funext fun buffer => funext fun offset => byteAt?_eq_readAt? buffer offset
  rw [same]
  exact readsExactly_readAt? Nat.one_pos

/-- A number consists of the one that its first bytes store and of the one behind it, which counts
as many times as the first bytes have values.
-/
theorem readAt?_add_eq_some_iff (first second : Nat)
    : buffer.readAt? (first + second) offset = some number
      ↔ ∃ low high,
          buffer.readAt? first offset = some low
          ∧ buffer.readAt? second (offset + first) = some high
          ∧ number = low + 256 ^ first * high := by
  cases offset with
  | negSucc before => simp [readAt?]
  | ofNat offset =>
      have behind : Int.ofNat offset + first = Int.ofNat (offset + first) := rfl
      simp only [behind, readAt?, read?, Option.map_eq_some_iff, slice?_add_eq_some_iff]
      constructor
      · rintro ⟨bytes, ⟨left, right, foundLeft, foundRight, rfl⟩, rfl⟩
        refine ⟨_, _, ⟨left, foundLeft, rfl⟩, ⟨right, foundRight, rfl⟩, ?_⟩
        obtain rfl := length_of_slice? foundLeft
        exact littleValue_append left right
      · rintro ⟨low, high, ⟨left, foundLeft, rfl⟩, ⟨right, foundRight, rfl⟩, rfl⟩
        refine ⟨_, ⟨left, right, foundLeft, foundRight, rfl⟩, ?_⟩
        obtain rfl := length_of_slice? foundLeft
        exact littleValue_append left right

/-- Bytes and numbers of two and four bytes are read exactly. A number of four bytes is read where
both of its halves are, and is made of them. The reads of header fields are those at offsets that
are not negative.
-/
theorem reads_exact
    : ReadsExactly 1 byteAt?
      ∧ ReadsExactly 2 (fun buffer => buffer.readAt? 2)
      ∧ ReadsExactly 4 (fun buffer => buffer.readAt? 4)
      ∧ (∀ (buffer : Buffer) (offset : Int) (number : Nat),
          buffer.readAt? 4 offset = some number
          ↔ ∃ low high,
              buffer.readAt? 2 offset = some low
              ∧ buffer.readAt? 2 (offset + 2) = some high
              ∧ number = low + 65536 * high)
      ∧ ∀ (buffer : Buffer) (offset : Nat),
          buffer.u8? offset = buffer.byteAt? offset
          ∧ buffer.u16? offset = buffer.readAt? 2 offset
          ∧ buffer.u32? offset = buffer.readAt? 4 offset := by
  refine ⟨readsExactly_byteAt?, readsExactly_readAt? Nat.two_pos,
    readsExactly_readAt? (by decide), ?_, ?_⟩
  · intro buffer offset number
    exact readAt?_add_eq_some_iff 2 2
  · intro buffer offset
    exact ⟨(byteAt?_eq_readAt? buffer offset).symm, rfl, rfl⟩

/-- A number that ends with the buffer is also read where the byte in front of it is another one and
bytes follow; one byte further on it is cut off.
-/
theorem reads_exact_upToTheEnd
    : let buffer : Buffer := #[0x90, 0x78, 0x56, 0x34, 0x12]
      let other : Buffer := #[0x4D, 0x78, 0x56, 0x34, 0x12, 0x5A]
      buffer.readAt? 4 1 = some 0x12345678
      ∧ buffer.AgreeOn other 1 4
      ∧ other.readAt? 4 1 = some 0x12345678
      ∧ (buffer ++ other).readAt? 4 1 = some 0x12345678
      ∧ ¬(buffer.readAt? 4 2).isSome
      ∧ ∃ low high,
          buffer.readAt? 2 1 = some low
          ∧ buffer.readAt? 2 3 = some high
          ∧ 0x12345678 = low + 65536 * high := by
  intro buffer other
  have found : buffer.readAt? 4 1 = some 0x12345678 := by decide
  have agree : buffer.AgreeOn other 1 4 := by decide
  obtain ⟨-, -, whole, halves, -⟩ := reads_exact
  exact ⟨found, agree, whole.altered found other agree, whole.appended found other,
    mt (whole.isSome_iff buffer 2).mp (by decide), (halves buffer 1 _).mp found⟩

end Bytewise.Buffer

import Bytewise.Json.Printer
import Bytewise.Proofs.Json.Reader

/-! A written string is in ASCII, and it is read back character by character. -/

namespace Bytewise.Json

open Reader

/-- The characters of a text that are all in ASCII. -/
def IsAscii (text : List Char) : Prop :=
  ∀ c ∈ text, c.toNat < 0x80

namespace IsAscii

instance (text : List Char) : Decidable (IsAscii text) :=
  List.decidableBAll _ text

variable {front back : List Char}

theorem append (ascii : IsAscii front) (asciiBack : IsAscii back) : IsAscii (front ++ back) :=
  fun c mem => (List.mem_append.mp mem).elim (ascii c) (asciiBack c)

theorem cons {c : Char} (small : c.toNat < 0x80) (ascii : IsAscii back) : IsAscii (c :: back) :=
  List.forall_mem_cons.mpr ⟨small, ascii⟩

end IsAscii

-----------------------------------------------------------------------------------------
-- Units
-----------------------------------------------------------------------------------------

/-- The units of 16 bits that a character is written in. -/
def charUnits (c : Char) : List Nat :=
  if c.toNat < 0x10000 then
    [c.toNat]
  else
    [0xD800 + (c.toNat - 0x10000) / 0x400, 0xDC00 + (c.toNat - 0x10000) % 0x400]

/-- The units of a character stand for it: a unit on its own is no surrogate, and two of them are
the halves of one character.
-/
theorem characters?_charUnits (c : Char) (others : List Nat)
    : characters? (charUnits c ++ others) = (characters? others).map (c :: ·) := by
  have valid : c.toNat < 0xD800 ∨ 0xDFFF < c.toNat ∧ c.toNat < 0x110000 := c.valid
  rw [charUnits]
  split
  case isTrue =>
    rw [List.singleton_append, characters?.eq_def]
    dsimp only
    rw [if_pos (by omega), Char.ofNat_toNat]
  case isFalse large =>
    have sum : 0x10000 + (0xD800 + (c.toNat - 0x10000) / 0x400 - 0xD800) * 0x400
        + (0xDC00 + (c.toNat - 0x10000) % 0x400 - 0xDC00) = c.toNat := by omega
    rw [List.cons_append, List.singleton_append, characters?.eq_def]
    dsimp only
    rw [if_neg (by omega), if_pos (by omega), sum, Char.ofNat_toNat]

/-- Units in front of what is read behind them. -/
def unitsBefore (units : List Nat) (others : Option (List Nat × List Char))
    : Option (List Nat × List Char) :=
  others.map (fun (more, rest) => (units ++ more, rest))

theorem hexDigit?_digitChar : ∀ digit < 16, hexDigit? digit.digitChar = some digit := by
  decide

theorem toNat_le_of_le {c last : Char} (le : c ≤ last) : c.toNat ≤ last.toNat :=
  UInt32.le_iff_toNat_le.mp (Char.le_def.mp le)

/-- Every digit of base sixteen is in ASCII. -/
theorem toNat_lt_of_hexDigit? {c : Char} (digit : (hexDigit? c).isSome) : c.toNat < 0x80 := by
  rw [hexDigit?] at digit
  split at digit
  case isTrue decimal => exact Nat.lt_of_le_of_lt (toNat_le_of_le decimal.2) (by decide)
  case isFalse =>
    split at digit
    case isTrue lower => exact Nat.lt_of_le_of_lt (toNat_le_of_le lower.2) (by decide)
    case isFalse =>
      split at digit
      case isTrue upper => exact Nat.lt_of_le_of_lt (toNat_le_of_le upper.2) (by decide)
      case isFalse => cases digit

theorem hex_isAscii (width number : Nat) : IsAscii (Text.hex width number).toList := by
  intro c mem
  apply toNat_lt_of_hexDigit?
  apply Text.isSome_of_numeralValue? _ mem
  rw [Text.numeralValue?_hex hexDigit?_digitChar]
  rfl

theorem unitEscape_isAscii (unit : Nat) : IsAscii (unitEscape unit).toList := by
  rw [unitEscape, String.toList_append]
  exact IsAscii.append (by decide) (hex_isAscii 4 unit)

/-- An escape of a unit is read as the unit. -/
theorem units?_unitEscape {unit : Nat} (small : unit < 0x10000) (rest : List Char)
    : units? ((unitEscape unit).toList ++ rest) = unitsBefore [unit] (units? rest) := by
  have length : (Text.hex 4 unit).toList.length = 4 :=
    Text.length_toList_hex (by decide) small
  have value := Text.numeralValue?_hex hexDigit?_digitChar 4 unit
  rw [unitEscape, String.toList_append]
  generalize (Text.hex 4 unit).toList = digits at length value
  match digits, length with
  | [a, b, c, d], _ =>
      change units? ('\\' :: 'u' :: a :: b :: c :: d :: rest) = _
      rw [units?, value]
      rfl

/-- The ways of writing a character inside a string. -/
inductive CharForm (c : Char) (text : String) : Prop where
  | letter (letter : Char) (spelled : text.toList = ['\\', letter])
      (meaning : escaped? letter = some c) (ascii : letter.toNat < 0x80 ∧ c.toNat < 0x80)
  | itself (spelled : text.toList = [c]) (first : ' ' ≤ c) (last : c ≤ '~')
      (notQuote : c ≠ '"') (notBackslash : c ≠ '\\')
  | codePoint (spelled : text = codePointEscape c.toNat)

theorem charText_form (c : Char) : CharForm c (charText c) := by
  rw [charText]
  split
  case isTrue quote =>
    subst quote
    exact .letter '"' rfl rfl (by decide)
  case isFalse notQuote =>
    split
    case isTrue backslash =>
      subst backslash
      exact .letter '\\' rfl rfl (by decide)
    case isFalse notBackslash =>
      iterate 5
        split
        · next control =>
            subst control
            exact .letter _ rfl rfl (by decide)
      split
      case isTrue printable =>
        exact .itself (String.toList_singleton c) printable.1 printable.2 notQuote notBackslash
      case isFalse => exact .codePoint rfl

theorem charText_isAscii (c : Char) : IsAscii (charText c).toList := by
  cases charText_form c with
  | letter letter spelled meaning ascii =>
      rw [spelled]
      simp [IsAscii, ascii.1]
  | itself spelled first last notQuote notBackslash =>
      rw [spelled]
      simpa [IsAscii] using Nat.lt_of_le_of_lt (toNat_le_of_le last) (by decide)
  | codePoint spelled =>
      rw [spelled, codePointEscape]
      split
      case isTrue => exact unitEscape_isAscii _
      case isFalse =>
        rw [String.toList_append]
        exact (unitEscape_isAscii _).append (unitEscape_isAscii _)

/-- Whatever a character is written as, it is read as the character's units. -/
theorem units?_charText (c : Char) (rest : List Char)
    : units? ((charText c).toList ++ rest) = unitsBefore (charUnits c) (units? rest) := by
  cases charText_form c with
  | letter letter spelled meaning ascii =>
      have notUnit : letter ≠ 'u' := by
        rintro rfl
        cases meaning
      have units : charUnits c = [c.toNat] := if_pos (by omega)
      rw [spelled, units]
      change units? ('\\' :: letter :: rest) = _
      rw [units?, meaning]
      · rfl
      · exact fun _ _ _ _ _ isUnit _ => notUnit isUnit
  | itself spelled first last notQuote notBackslash =>
      have small : c.toNat ≤ '~'.toNat := toNat_le_of_le last
      have units : charUnits c = [c.toNat] := if_pos (Nat.lt_of_le_of_lt small (by decide))
      have plain : ¬ (c = '\\' ∨ c < ' ') := not_or.mpr ⟨notBackslash, Char.not_lt.mpr first⟩
      rw [spelled, units, List.singleton_append, units?, if_neg plain]
      · rfl
      · exact notQuote
      · exact fun _ _ _ _ _ backslash _ => notBackslash backslash
      · exact fun _ _ backslash _ => notBackslash backslash
  | codePoint spelled =>
      have valid : c.toNat < 0xD800 ∨ 0xDFFF < c.toNat ∧ c.toNat < 0x110000 := c.valid
      rw [spelled, codePointEscape, charUnits]
      split
      case isTrue small => exact units?_unitEscape small rest
      case isFalse large =>
        rw [String.toList_append, List.append_assoc, units?_unitEscape (by omega),
          units?_unitEscape (by omega)]
        cases units? rest with
        | none => rfl
        | some others => rfl

-----------------------------------------------------------------------------------------
-- Strings
-----------------------------------------------------------------------------------------

theorem toList_stringText (text : String)
    : (stringText text).toList
      = '"' :: (text.toList.flatMap (fun c => (charText c).toList) ++ ['"']) := by
  have folded (characters : List Char) (written : String)
      : (characters.foldl (fun written c => written ++ charText c) written).toList
        = written.toList ++ characters.flatMap (fun c => (charText c).toList) := by
    induction characters generalizing written with
    | nil => simp
    | cons c rest ih => simp [ih]
  rw [stringText, String.toList_append, String.toList_append, folded]
  rfl

theorem stringText_isAscii (text : String) : IsAscii (stringText text).toList := by
  intro c mem
  rw [toList_stringText, List.mem_cons, List.mem_append, List.mem_singleton,
    List.mem_flatMap] at mem
  rcases mem with rfl | ⟨source, -, written⟩ | rfl
  · decide
  · exact charText_isAscii source c written
  · decide

/-- The units of a string's characters are read up to its closing quote, by induction on the
characters.
-/
theorem units?_flatMap_charText (characters : List Char) (rest : List Char)
    : units? (characters.flatMap (fun c => (charText c).toList) ++ '"' :: rest)
      = some (characters.flatMap charUnits, rest) := by
  induction characters with
  | nil => rfl
  | cons c characters ih =>
      rw [List.flatMap_cons, List.append_assoc, units?_charText, ih]
      rfl

theorem characters?_flatMap_charUnits (characters : List Char)
    : characters? (characters.flatMap charUnits) = some characters := by
  induction characters with
  | nil => rfl
  | cons c characters ih => rw [List.flatMap_cons, characters?_charUnits, ih, Option.map_some]

/-- A written string is read back behind its opening quote. -/
theorem string?_append (text : String) (rest : List Char)
    : string? (text.toList.flatMap (fun c => (charText c).toList) ++ '"' :: rest)
      = some (text, rest) := by
  rw [string?, units?_flatMap_charText]
  simp [characters?_flatMap_charUnits]

end Bytewise.Json

/-! Decoding of UTF-8 that never fails. Bytes that are no character's encoding are replaced: one
replacement for each longest run of bytes that could still have begun a character, and one for
each byte that could not.
-/

namespace Bytewise.Text.Utf8

/-- What stands for bytes that are no character. -/
def replacement : Char := '\uFFFD'

/-- A character of which some bytes have been read. The next byte has to lie between `lower` and
`upper`, and `owed` more follow it.
-/
structure Pending where
  value : Nat
  owed : Nat
  lower : UInt8 := 0x80
  upper : UInt8 := 0xBF
deriving DecidableEq, Repr

/-- What the first byte of a character tells about it. -/
inductive Lead where
  | complete (c : Char)
  | pending (rest : Pending)
  | invalid
deriving DecidableEq, Repr

/-- The reading of a byte that belongs to no earlier character. Overlong forms, surrogates and code
points past the last one are refused by the range of the second byte.
-/
def lead (byte : UInt8) : Lead :=
  if byte < 0x80 then .complete (Char.ofUInt8 byte)
  else if byte < 0xC2 then .invalid
  else if byte < 0xE0 then .pending { value := byte.toNat - 0xC0, owed := 0 }
  else if byte = 0xE0 then .pending { value := 0, owed := 1, lower := 0xA0 }
  else if byte = 0xED then .pending { value := 0xD, owed := 1, upper := 0x9F }
  else if byte < 0xF0 then .pending { value := byte.toNat - 0xE0, owed := 1 }
  else if byte = 0xF0 then .pending { value := 0, owed := 2, lower := 0x90 }
  else if byte < 0xF4 then .pending { value := byte.toNat - 0xF0, owed := 2 }
  else if byte = 0xF4 then .pending { value := 4, owed := 2, upper := 0x8F }
  else .invalid

/-- What has been decoded so far, last character first, and the character in progress. -/
structure Decoder where
  decoded : List Char := []
  pending : Option Pending := none

namespace Decoder

/-- Reads a byte that begins a character. -/
def start (decoder : Decoder) (byte : UInt8) : Decoder :=
  match lead byte with
  | .complete c => { decoded := c :: decoder.decoded }
  | .pending rest => { decoded := decoder.decoded, pending := some rest }
  | .invalid => { decoded := replacement :: decoder.decoded }

/-- Gives up the character in progress, if there is one. -/
def abandon (decoder : Decoder) : Decoder :=
  match decoder.pending with
  | some _ => { decoded := replacement :: decoder.decoded }
  | none => decoder

/-- Reads a byte: the next one of the character in progress, or the first one of another. -/
def feed (decoder : Decoder) (byte : UInt8) : Decoder :=
  match decoder.pending with
  | none => decoder.start byte
  | some { value, owed, lower, upper } =>
      if lower ≤ byte ∧ byte ≤ upper then
        let value := value * 64 + (byte.toNat - 0x80)
        match owed with
        | 0 => { decoded := Char.ofNat value :: decoder.decoded }
        | owed + 1 => { decoded := decoder.decoded, pending := some { value, owed } }
      else
        decoder.abandon.start byte

end Decoder

/-- The text that the bytes encode. -/
def decode (bytes : List UInt8) : String :=
  String.ofList (bytes.foldl Decoder.feed {}).abandon.decoded.reverse

end Bytewise.Text.Utf8

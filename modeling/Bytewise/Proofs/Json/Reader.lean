import Bytewise.Json.Basic
import Bytewise.Decimal.Shortest
import Bytewise.Proofs.Text.Hex

/-! The reading of JSON text by its grammar. A reader takes something off the front of a text and
tells what is left. Numbers without a fraction and an exponent are integers; all others are read
as the nearest number of the binary format. Escapes stand for units of 16 bits, and two of them for
a character that needs more.
-/

namespace Bytewise.Json

/-- What is read off the front of a text, and the text behind it. -/
abbrev Reader (α : Type) := List Char → Option (α × List Char)

namespace Reader

def isBlank (c : Char) : Bool :=
  c == ' ' || c == '\n' || c == '\t' || c == '\r'

def skipBlanks (text : List Char) : List Char :=
  text.dropWhile isBlank

-----------------------------------------------------------------------------------------
-- Strings
-----------------------------------------------------------------------------------------

/-- The digit of base sixteen that a character stands for, in either case. -/
def hexDigit? (c : Char) : Option Nat :=
  if '0' ≤ c ∧ c ≤ '9' then some (c.toNat - '0'.toNat)
  else if 'a' ≤ c ∧ c ≤ 'f' then some (c.toNat - 'a'.toNat + 10)
  else if 'A' ≤ c ∧ c ≤ 'F' then some (c.toNat - 'A'.toNat + 10)
  else none

/-- The character that is meant by a backslash and one more character. -/
def escaped? (c : Char) : Option Char :=
  if c = '"' ∨ c = '\\' ∨ c = '/' then some c
  else if c = 'b' then some '\x08'
  else if c = 'f' then some '\x0c'
  else if c = 'n' then some '\n'
  else if c = 'r' then some '\r'
  else if c = 't' then some '\t'
  else none

/-- A unit read off the front of what another reader has left. -/
def unitBefore (unit : Option Nat) (others : Option (List Nat × List Char))
    : Option (List Nat × List Char) :=
  unit.bind (fun unit => others.map (fun (units, rest) => (unit :: units, rest)))

/-- The units up to the closing quote of a string. Control characters do not stand for
themselves.
-/
def units? : Reader (List Nat)
  | [] => none
  | '"' :: rest => some ([], rest)
  | '\\' :: 'u' :: a :: b :: c :: d :: rest =>
      unitBefore (Text.numeralValue? hexDigit? [a, b, c, d]) (units? rest)
  | '\\' :: c :: rest => unitBefore ((escaped? c).map Char.toNat) (units? rest)
  | c :: rest => unitBefore (if c = '\\' ∨ c < ' ' then none else some c.toNat) (units? rest)

/-- The characters that units stand for. A surrogate is one half of a character, and nothing
without the other half.
-/
def characters? : List Nat → Option (List Char)
  | [] => some []
  | high :: rest =>
      if high < 0xD800 ∨ 0xDFFF < high then
        (characters? rest).map (Char.ofNat high :: ·)
      else
        match rest with
        | [] => none
        | low :: rest =>
            if high < 0xDC00 ∧ 0xDC00 ≤ low ∧ low ≤ 0xDFFF then
              (characters? rest).map
                (Char.ofNat (0x10000 + (high - 0xD800) * 0x400 + (low - 0xDC00)) :: ·)
            else
              none

/-- A string behind its opening quote. -/
def string? : Reader String := fun text => do
  let (units, rest) ← units? text
  let characters ← characters? units
  return (String.ofList characters, rest)

-----------------------------------------------------------------------------------------
-- Numbers
-----------------------------------------------------------------------------------------

def signed (negative : Bool) (magnitude : Nat) : Int :=
  if negative then -magnitude else magnitude

/-- The parts of a number as it is written. -/
structure Literal where
  negative : Bool
  whole : List Char
  fraction : Option (List Char)
  exponent : Option Int
deriving DecidableEq, Repr

namespace Literal

def behindPoint (literal : Literal) : List Char :=
  literal.fraction.getD []

/-- The decimal that is written, without its sign. -/
def decimal (literal : Literal) : Decimal :=
  ⟨Nat.ofDigitChars 10 (literal.whole ++ literal.behindPoint) 0,
    literal.exponent.getD 0 - literal.behindPoint.length⟩

def toJson (literal : Literal) : Json :=
  if literal.fraction.isNone ∧ literal.exponent.isNone then
    .integer (signed literal.negative (Nat.ofDigitChars 10 literal.whole 0))
  else
    .double (.nearest literal.negative literal.decimal.magnitude)

end Literal

/-- As many digits as there are, and at least one. -/
def digits? : Reader (List Char) := fun text =>
  if (text.takeWhile Char.isDigit).isEmpty then none
  else some (text.takeWhile Char.isDigit, text.dropWhile Char.isDigit)

def minus : List Char → Bool × List Char
  | '-' :: rest => (true, rest)
  | text => (false, text)

/-- The digits before the point. A zero is not followed by others. -/
def whole? : Reader (List Char)
  | '0' :: rest => some (['0'], rest)
  | text => digits? text

def fraction? : Reader (Option (List Char))
  | '.' :: rest => (digits? rest).map (fun (digits, rest) => (some digits, rest))
  | text => some (none, text)

/-- The power of ten that is written, its sign and its digits. -/
def power? : Reader Int := fun text =>
  let (negative, text) :=
    match text with
    | '+' :: rest => (false, rest)
    | text => minus text
  (digits? text).map
    (fun (digits, rest) => (signed negative (Nat.ofDigitChars 10 digits 0), rest))

def exponent? : Reader (Option Int)
  | 'e' :: rest | 'E' :: rest => (power? rest).map (fun (power, rest) => (some power, rest))
  | text => some (none, text)

def literal? : Reader Literal := fun text => do
  let (negative, text) := minus text
  let (whole, text) ← whole? text
  let (fraction, text) ← fraction? text
  let (exponent, text) ← exponent? text
  return ({ negative, whole, fraction, exponent }, text)

-----------------------------------------------------------------------------------------
-- Values
-----------------------------------------------------------------------------------------

/-- A word that stands for a value. -/
def word? (word : String) (value : Json) : Reader Json := fun text =>
  if word.toList.isPrefixOf text then some (value, text.drop word.length) else none

section Items

variable {α : Type} (item? : Reader α) (close : Char)

/-- The items that follow the first one, each behind a comma, and the closing bracket. No more than
`steps` brackets and commas are read.
-/
def moreItems? : Nat → Reader (List α)
  | 0, _ => none
  | steps + 1, text =>
      match skipBlanks text with
      | [] => none
      | c :: rest =>
          if c = close then
            some ([], rest)
          else if c = ',' then do
            let (item, rest) ← item? rest
            let (items, rest) ← moreItems? steps rest
            return (item :: items, rest)
          else
            none

/-- Items with commas between them behind an opening bracket, and the closing one. -/
def items? (steps : Nat) : Reader (List α) := fun text =>
  match skipBlanks text with
  | [] => none
  | c :: rest =>
      if c = close then
        some ([], rest)
      else do
        let (first, rest) ← item? text
        let (others, rest) ← moreItems? item? close steps rest
        return (first :: others, rest)

end Items

/-- A name, a colon and a value. -/
def member? (value? : Reader Json) : Reader (String × Json) := fun text =>
  match skipBlanks text with
  | '"' :: rest => do
      let (name, rest) ← string? rest
      match skipBlanks rest with
      | ':' :: rest =>
          let (value, rest) ← value? rest
          return ((name, value), rest)
      | _ => none
  | _ => none

/-- A value with any blanks before it. Brackets are nested no deeper than `fuel`. -/
def value? : Nat → Reader Json
  | 0, _ => none
  | fuel + 1, text =>
      match skipBlanks text with
      | [] => none
      | '"' :: rest => (string? rest).map (fun (value, rest) => (.string value, rest))
      | '[' :: rest =>
          (items? (value? fuel) ']' fuel rest).map (fun (elements, rest) => (.array elements, rest))
      | '\x7b' :: rest =>
          (items? (member? (value? fuel)) '\x7d' fuel rest).map
            (fun (members, rest) => (.object members, rest))
      | 'n' :: rest => word? "ull" .null rest
      | 't' :: rest => word? "rue" (.bool true) rest
      | 'f' :: rest => word? "alse" (.bool false) rest
      | text => (literal? text).map (fun (literal, rest) => (literal.toJson, rest))

end Reader

/-- The document that a text is, with nothing but blanks around it. -/
def parse (text : String) : Option Json :=
  match Reader.value? text.length text.toList with
  | some (document, rest) => if (Reader.skipBlanks rest).isEmpty then some document else none
  | none => none

end Bytewise.Json

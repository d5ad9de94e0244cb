import Bytewise.Decimal.Notation
import Bytewise.Json.Basic
import Bytewise.Text.Hex

/-! JSON text in ASCII, with each element and member on a line of its own, two spaces deeper than
the brackets around it.
-/

namespace Bytewise.Json

-----------------------------------------------------------------------------------------
-- Strings
-----------------------------------------------------------------------------------------

/-- The escape of one unit of 16 bits. -/
def unitEscape (unit : Nat) : String :=
  "\\u" ++ Text.hex 4 unit

/-- The escape of a code point, in two surrogate units when it needs more than 16 bits. -/
def codePointEscape (codePoint : Nat) : String :=
  if codePoint < 0x10000 then
    unitEscape codePoint
  else
    unitEscape (0xD800 + (codePoint - 0x10000) / 0x400)
      ++ unitEscape (0xDC00 + (codePoint - 0x10000) % 0x400)

/-- How a character is written inside a string. Only printable ASCII stands for itself. -/
def charText (c : Char) : String :=
  if c = '"' then "\\\""
  else if c = '\\' then "\\\\"
  else if c = '\n' then "\\n"
  else if c = '\r' then "\\r"
  else if c = '\t' then "\\t"
  else if c = '\x0c' then "\\f"
  else if c = '\x08' then "\\b"
  else if ' ' ≤ c ∧ c ≤ '~' then c.toString
  else codePointEscape c.toNat

/-- A string between its quotes. -/
def stringText (text : String) : String :=
  "\"" ++ text.toList.foldl (fun written c => written ++ charText c) "" ++ "\""

-----------------------------------------------------------------------------------------
-- Values
-----------------------------------------------------------------------------------------

/-- A new line at a depth of nesting. -/
def lineBreak (depth : Nat) : String :=
  String.ofList ('\n' :: List.replicate (2 * depth) ' ')

mutual
/-- The text so far, and behind it a value. -/
def appendValue (written : String) (depth : Nat) : Json → String
  | .null => written ++ "null"
  | .bool true => written ++ "true"
  | .bool false => written ++ "false"
  | .integer value => written ++ toString value
  | .double value => written ++ value.text
  | .string value => written ++ stringText value
  | .array [] => written ++ "[]"
  | .array (element :: rest) =>
      appendElements
          (appendValue (written ++ "[" ++ lineBreak (depth + 1)) (depth + 1) element)
          (depth + 1) rest
        ++ lineBreak depth ++ "]"
  | .object [] => written ++ "\x7b\x7d"
  | .object ((name, value) :: rest) =>
      appendMembers
          (appendValue
            (written ++ "\x7b" ++ lineBreak (depth + 1) ++ stringText name ++ ": ")
            (depth + 1) value)
          (depth + 1) rest
        ++ lineBreak depth ++ "\x7d"

/-- The text so far, and behind it the elements that follow the first one. -/
def appendElements (written : String) (depth : Nat) : List Json → String
  | [] => written
  | element :: rest =>
      appendElements (appendValue (written ++ "," ++ lineBreak depth) depth element)
        depth rest

/-- The text so far, and behind it the members that follow the first one. -/
def appendMembers (written : String) (depth : Nat) : List (String × Json) → String
  | [] => written
  | (name, value) :: rest =>
      appendMembers
        (appendValue (written ++ "," ++ lineBreak depth ++ stringText name ++ ": ")
          depth value)
        depth rest
end

def render (document : Json) : String :=
  appendValue "" 0 document

end Bytewise.Json

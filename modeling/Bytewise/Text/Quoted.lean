import Bytewise.Text.Hex
import Bytewise.Text.Printable

/-! Quoted text for messages. The quote is single, or double when that avoids escaping: when the
text holds a single quote and no double one.
-/

namespace Bytewise.Text

/-- How a character that may not stand for itself is written: by two, four or eight digits,
the fewest that hold its code point.
-/
def codePointEscape (c : Char) : String :=
  if c.toNat < 0x100 then
    "\\x" ++ hex 2 c.toNat
  else if c.toNat < 0x10000 then
    "\\u" ++ hex 4 c.toNat
  else
    "\\U" ++ hex 8 c.toNat

/-- How a character is written between two of the given quotes. -/
def quotedChar (quote c : Char) : String :=
  if c = quote ∨ c = '\\' then
    String.ofList ['\\', c]
  else if c = '\n' then
    "\\n"
  else if c = '\r' then
    "\\r"
  else if c = '\t' then
    "\\t"
  else if isPrintable c then
    c.toString
  else
    codePointEscape c

/-- The quote that a text is put between. -/
def quoteFor (text : String) : Char :=
  if text.toList.contains '\'' && !text.toList.contains '"' then '"' else '\''

/-- The text between quotes, every character that could mislead escaped. -/
def quoted (text : String) : String :=
  let quote := quoteFor text
  quote.toString ++ String.join (text.toList.map (quotedChar quote)) ++ quote.toString

end Bytewise.Text

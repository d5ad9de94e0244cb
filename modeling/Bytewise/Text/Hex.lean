/-! Numbers in base sixteen. -/

namespace Bytewise.Text

/-- Lower-case hexadecimal with at least `width` digits, filled up with zeros. -/
def hex (width number : Nat) : String :=
  String.ofList ((Nat.toDigits 16 number).leftpad width '0')

/-- Upper-case hexadecimal without filling. -/
def upperHex (number : Nat) : String :=
  String.ofList ((Nat.toDigits 16 number).map Char.toUpper)

/-- The text whose characters are the given bytes, one code point each. -/
def ofLatin1 (bytes : List UInt8) : String :=
  String.ofList (bytes.map Char.ofUInt8)

end Bytewise.Text

import Bytewise.Decimal.Shortest

/-! The written form of a number: the shortest digits that read back, positional while the exponent
of the leading digit is between -4 and 15, otherwise with an exponent of at least two digits. A
positional form always has a point.
-/

namespace Bytewise

namespace Decimal

def digits (decimal : Decimal) : List Char :=
  Nat.toDigits 10 decimal.coefficient

/-- How many digits stand before the point; a negative count stands for zeros behind it. -/
def point (decimal : Decimal) : Int :=
  decimal.exponent + decimal.digits.length

/-- The form with all digits around a point. -/
def positional (decimal : Decimal) : List Char :=
  let point := decimal.point
  if point ≤ 0 then
    '0' :: '.' :: List.replicate (-point).toNat '0' ++ decimal.digits
  else if decimal.digits.length ≤ point.toNat then
    decimal.digits ++ List.replicate (point.toNat - decimal.digits.length) '0' ++ ['.', '0']
  else
    decimal.digits.take point.toNat ++ '.' :: decimal.digits.drop point.toNat

/-- The form with one digit before the point and an exponent. -/
def scientific (decimal : Decimal) : List Char :=
  let exponent := decimal.point - 1
  let fraction := decimal.digits.drop 1
  decimal.digits.take 1 ++ (if fraction.isEmpty then [] else '.' :: fraction)
    ++ ['e', if exponent < 0 then '-' else '+']
    ++ (Nat.toDigits 10 exponent.natAbs).leftpad 2 '0'

/-- The written form of a decimal other than zero. -/
def layout (decimal : Decimal) : List Char :=
  if -3 ≤ decimal.point ∧ decimal.point ≤ 16 then
    decimal.positional
  else
    decimal.scientific

end Decimal

/-- The written form of a number. -/
def Binary64.text (number : Binary64) : String :=
  number.signText
    ++ if number.significand = 0 then "0.0" else String.ofList number.shortest.layout

end Bytewise

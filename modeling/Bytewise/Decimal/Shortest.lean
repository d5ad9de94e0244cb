import Bytewise.Decimal.Binary64

/-! The shortest decimal that reads back to a binary number: no decimal with fewer digits does, and
of those with as many it is the nearest.
-/

namespace Bytewise

/-- The decimal `coefficient * 10 ^ exponent`. -/
structure Decimal where
  coefficient : Nat
  exponent : Int
deriving DecidableEq, Repr

namespace Decimal

def magnitude (decimal : Decimal) : Fraction :=
  (Fraction.ofNat decimal.coefficient).scale 10 decimal.exponent

/-- A positive fraction rounded to a number of digits, an exact half going to the even
neighbour.
-/
def ofFraction (fraction : Fraction) (digits : Nat) : Decimal :=
  let exponent := fraction.place 10 - digits
  ⟨(fraction.scale 10 (-exponent)).round .toEven, exponent⟩

/-- The same value with the coefficient's trailing zeros moved into the exponent. -/
def normalize (decimal : Decimal) : Decimal :=
  let zeros :=
    ((Nat.toDigits 10 decimal.coefficient).reverse.takeWhile (· == '0')).length
  ⟨decimal.coefficient / Nat.pow 10 zeros, decimal.exponent + zeros⟩

end Decimal

namespace Binary64

/-- Whether a decimal is nearer to the number than to any other one. -/
def readsBack (number : Binary64) (decimal : Decimal) : Bool :=
  nearest number.negative decimal.magnitude == number

/-- The two decimals around a number that have a given count of digits, the nearer one first. -/
def neighbours (number : Binary64) (digits : Nat) : List Decimal :=
  let exponent := number.magnitude.place 10 - digits
  let grid := number.magnitude.scale 10 (-exponent)
  if grid.round .toEven = grid.floor then
    [⟨grid.floor, exponent⟩, ⟨grid.floor + 1, exponent⟩]
  else
    [⟨grid.floor + 1, exponent⟩, ⟨grid.floor, exponent⟩]

/-- The decimal that a number is exactly equal to. -/
def exactDecimal (number : Binary64) : Decimal :=
  ⟨number.significand * Nat.pow 2 number.exponent.toNat * Nat.pow 5 (-number.exponent).toNat,
    min number.exponent 0⟩

/-- The most digits that a shortest decimal needs. -/
def mostDigits : Nat := 17

/-- The shortest decimal that reads back to a number other than zero. -/
def shortest (number : Binary64) : Decimal :=
  (((List.range mostDigits).findSome?
    (fun fewer => (number.neighbours (fewer + 1)).find? number.readsBack)).getD
      number.exactDecimal).normalize

end Binary64

end Bytewise

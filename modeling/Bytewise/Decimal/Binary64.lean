import Bytewise.Decimal.Fraction

/-! Binary floating-point numbers of 64 bits, as exact values. The numbers met here are zero or at
least a hundredth, so the format's least exponents are never reached; its greatest may be.
-/

namespace Bytewise

/-- The number `significand * 2 ^ exponent` with a sign. Other than zero, the significand has
exactly 53 bits.
-/
structure Binary64 where
  negative : Bool
  significand : Nat
  exponent : Int
deriving DecidableEq, Repr

namespace Binary64

/-- The bits of a significand. -/
def precision : Nat := 53

/-- The least number that needs more bits than a significand has. -/
def significandLimit : Nat := 0x20000000000000

/-- The nearest number to a fraction with the given sign, an exact half going to the even
significand.
-/
def nearest (negative : Bool) (fraction : Fraction) : Binary64 :=
  if fraction.num = 0 then
    ⟨negative, 0, 0⟩
  else
    let exponent := fraction.place 2 - precision
    let significand := (fraction.scale 2 (-exponent)).round .toEven
    if significand = significandLimit then
      ⟨negative, significandLimit / 2, exponent + 1⟩
    else
      ⟨negative, significand, exponent⟩

/-- The nearest number to an integer. -/
def ofInt (number : Int) : Binary64 :=
  nearest (number < 0) (.ofNat number.natAbs)

def magnitude (number : Binary64) : Fraction :=
  (Fraction.ofNat number.significand).scale 2 number.exponent

/-- Whether the number is below `2 ^ 1024`, where the format's numbers end. -/
def inRange (number : Binary64) : Bool :=
  number.exponent + precision ≤ 1024

/-- The sign as it is written. -/
def signText (number : Binary64) : String :=
  if number.negative then "-" else ""

/-- The number in decimal with a fixed number of places, rounded from its exact value. -/
def fixed (number : Binary64) (places : Nat) : String :=
  number.signText ++ number.magnitude.fixed places

end Binary64

end Bytewise

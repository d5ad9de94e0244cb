import Bytewise.Decimal.Shortest

/-! The percentage of positions that agree, in hundredths. The product and the quotient are each
rounded to 28 significant digits with halves to the even neighbour, then the hundredths are
rounded with halves away from zero. The first digit of a result may not count more than a greatest
power of ten. Least powers are not modelled: what they cut off is far below a hundredth.
-/

namespace Bytewise

namespace Decimal

/-- The digits that decimal arithmetic keeps. -/
def workingDigits : Nat := 28

/-- The exponent of the greatest power of ten that the first digit of a result may count. -/
def exponentLimit : Nat := 999999

/-- The given exact value of an operation with the digits that are kept: its result unless that is
too large.
-/
def ofExact (fraction : Fraction) : Decimal :=
  if fraction.num = 0 then ⟨0, 0⟩ else ofFraction fraction workingDigits

/-- Whether the first digit counts a greater power of ten than that of a result may. -/
def overflows (decimal : Decimal) : Bool :=
  decimal.coefficient ≠ 0
    && exponentLimit < decimal.exponent + digitCount 10 decimal.coefficient - 1

end Decimal

namespace Similarity

/-- A hundred times the positions that agree. -/
def product (agreeing : Nat) : Decimal :=
  .ofExact (.ofNat (agreeing * 100))

/-- The product over the total, not yet rounded. -/
def ratio (total agreeing : Nat) : Fraction :=
  ⟨(product agreeing).magnitude.num, (product agreeing).magnitude.den * total⟩

/-- The hundredths of a percentage without its sign, for `agreeing` positions of `total`. -/
def hundredths (total agreeing : Nat) : Nat :=
  ((Decimal.ofExact (ratio total agreeing)).magnitude.scale 10 2).round .awayFromZero

/-- The percentage that some hundredths stand for. -/
def percentage (negative : Bool) (hundredths : Nat) : Binary64 :=
  .nearest negative ⟨hundredths, 100⟩

/-- The percentage of agreement when `count` of `total` positions differ, for any two integers for
which it can be told. A total of zero agrees completely. Zero counts as negative when the total is.
-/
def ofCount (total count : Int) : Binary64 :=
  if total = 0 then
    percentage false 10000
  else
    percentage ((total - count < 0) != (total < 0))
      (hundredths total.natAbs (total - count).natAbs)

/-- The least number with more digits than are kept. -/
def hundredthsLimit : Nat := 10000000000000000000000000000

/-- Why a percentage cannot be told. -/
inductive Failure where
  /-- The product, or the quotient, is too large. -/
  | overflow
  /-- The hundredths need more digits than are kept. -/
  | tooManyDigits
deriving DecidableEq, Repr

/-- Why the percentage of agreement cannot be told, if it cannot. The first of the reasons counts.
-/
def failure? (total count : Int) : Option Failure :=
  let agreeing := (total - count).natAbs
  if total = 0 then
    none
  else if (product agreeing).overflows then
    some .overflow
  else if (Decimal.ofExact (ratio total.natAbs agreeing)).overflows then
    some .overflow
  else if hundredthsLimit ≤ hundredths total.natAbs agreeing then
    some .tooManyDigits
  else
    none

/-- The percentage of agreement, absent when it cannot be told. -/
def ofCount? (total count : Int) : Option Binary64 :=
  if failure? total count = none then some (ofCount total count) else none

end Similarity

end Bytewise

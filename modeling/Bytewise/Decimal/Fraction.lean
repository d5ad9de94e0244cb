/-! Non-negative fractions and their rounding. All arithmetic is exact until the one rounding at
the end.
-/

namespace Bytewise

/-- Which neighbour an exact half is rounded to. -/
inductive Tie where
  | toEven
  | awayFromZero
deriving DecidableEq, Repr

/-- The integer nearest to `num / den`. -/
def roundDiv (tie : Tie) (num den : Nat) : Nat :=
  let quotient := num / den
  let remainder := num % den
  if 2 * remainder < den then
    quotient
  else if den < 2 * remainder then
    quotient + 1
  else
    match tie with
    | .toEven => quotient + quotient % 2
    | .awayFromZero => quotient + 1

/-- How many digits a number has in a base; zero has one. -/
def digitCount (base number : Nat) : Nat :=
  (Nat.toDigits base number).length

/-- A fraction `num / den`, with a positive denominator and not necessarily in lowest terms. -/
structure Fraction where
  num : Nat
  den : Nat
deriving DecidableEq, Repr

namespace Fraction

def ofNat (number : Nat) : Fraction := ⟨number, 1⟩

/-- The fraction times a power of a base; the exponent may be negative. -/
def scale (fraction : Fraction) (base : Nat) (exponent : Int) : Fraction :=
  ⟨fraction.num * Nat.pow base exponent.toNat, fraction.den * Nat.pow base (-exponent).toNat⟩

/-- The largest integer that is not above the fraction. -/
def floor (fraction : Fraction) : Nat :=
  fraction.num / fraction.den

def round (fraction : Fraction) (tie : Tie) : Nat :=
  roundDiv tie fraction.num fraction.den

/-- Whether the fraction is at least a natural number. -/
def atLeast (fraction : Fraction) (number : Nat) : Bool :=
  number * fraction.den ≤ fraction.num

/-- The least `k` for which a positive fraction is below `base ^ k`: the number of its digits
before the point, or less one for each zero that its digits behind the point begin with.
-/
def place (fraction : Fraction) (base : Nat) : Int :=
  if fraction.atLeast 1 then
    digitCount base fraction.floor
  else
    1 - (((List.range (digitCount base fraction.den + 1)).find?
      (fun shift => fraction.den ≤ fraction.num * Nat.pow base shift)).getD 0 : Nat)

/-- The fraction in decimal with a fixed number of places, an exact half going to the even
neighbour.
-/
def fixed (fraction : Fraction) (places : Nat) : String :=
  let units := (fraction.scale 10 places).round .toEven
  let digits := (Nat.toDigits 10 units).leftpad (places + 1) '0'
  let whole := digits.length - places
  String.ofList
    (digits.take whole ++ if places = 0 then [] else '.' :: digits.drop whole)

end Fraction

end Bytewise

import Bytewise.Decimal.Binary64

/-! Sizes for people: in the largest of four units that the size reaches, with at most two
decimals. A size is first rounded to the nearest binary floating-point number.
-/

namespace Bytewise.ByteSize

inductive SizeUnit where
  | bytes
  | kilobytes
  | megabytes
  | gigabytes
deriving DecidableEq, Repr

namespace SizeUnit

def name : SizeUnit → String
  | .bytes => "Bytes"
  | .kilobytes => "KB"
  | .megabytes => "MB"
  | .gigabytes => "GB"

/-- How many bytes make up a unit. -/
def factor : SizeUnit → Nat
  | .bytes => 1
  | .kilobytes => 1024
  | .megabytes => 1024 * 1024
  | .gigabytes => 1024 * 1024 * 1024

end SizeUnit

/-- The unit for a number of bytes: the largest that it reaches. Negative ones are not scaled. -/
def unitFor (number : Binary64) : SizeUnit :=
  if number.negative then
    .bytes
  else
    ([.gigabytes, .megabytes, .kilobytes].find?
      (fun unit => number.magnitude.atLeast unit.factor)).getD .bytes

/-- The hundredths of a unit in a number of bytes, an exact half going to the even neighbour. -/
def hundredthsOf (number : Binary64) (unit : SizeUnit) : Nat :=
  roundDiv .toEven (number.magnitude.num * 100) (number.magnitude.den * unit.factor)

/-- Hundredths as a decimal without superfluous zeros or point. -/
def trimmed (hundredths : Nat) : String :=
  toString (hundredths / 100)
    ++ if hundredths % 100 = 0 then ""
      else if hundredths % 10 = 0 then "." ++ toString (hundredths / 10 % 10)
      else "." ++ toString (hundredths / 10 % 10) ++ toString (hundredths % 10)

/-- A size in words. -/
def describe (size : Int) : String :=
  let number := Binary64.ofInt size
  let unit := unitFor number
  number.signText ++ trimmed (hundredthsOf number unit) ++ " " ++ unit.name

/-- A size in words, absent when no floating-point number is as large. -/
def describe? (size : Int) : Option String :=
  if (Binary64.ofInt size).inRange then some (describe size) else none

end Bytewise.ByteSize

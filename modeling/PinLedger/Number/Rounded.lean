/-
# Rounded numbers

A quotient as the nearest double, and numbers in decimal with a comma in front of every third
digit. A tie goes to the even neighbour.

Key definitions: `roundDiv`, `nearestDouble?`, `tenths`, `grouped`.
-/
import PinLedger.Number.Decimal

namespace PinLedger.Number

/-- The whole number nearest to a quotient; a half goes to the even neighbour. -/
def roundDiv (num den : Nat) : Nat :=
  let twice := 2 * (num % den)
  if twice < den || (twice == den && num / den % 2 == 0) then num / den else num / den + 1

/-- The double nearest to a quotient that is at least 1, as `mantissa · 2 ^ exponent`; `none` if
there is none so large. -/
def nearestDouble? (num den : Nat) : Option (Nat × Int) :=
  let exponent : Int := (num / den).log2 - 52
  let mantissa := roundDiv (num * powerOfTwo (-exponent).toNat) (den * powerOfTwo exponent.toNat)
  if 1024 ≤ exponent + mantissa.log2 then none else some (mantissa, exponent)

/-- The number of tenths nearest to `mantissa · 2 ^ exponent`. -/
def tenths (mantissa : Nat) (exponent : Int) : Nat :=
  roundDiv (10 * mantissa * powerOfTwo exponent.toNat) (powerOfTwo (-exponent).toNat)

/-- Puts a comma in front of every third digit from the right, the first one apart. -/
def commas : List Char → List Char
  | [] => []
  | d :: ds => d :: (if !ds.isEmpty && ds.length % 3 == 0 then [','] else []) ++ commas ds

/-- A number in decimal, in groups of three digits. -/
def grouped (n : Nat) : String := String.ofList (commas (Nat.toDigits 10 n))

end PinLedger.Number

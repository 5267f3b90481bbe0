/-
# Decimal numerals

Reading digits as a number, and the double nearest to a decimal. The exponent is looked at first,
so that a numeral with a huge exponent costs no more than its digits. Numbers with too many digits
are not written out.

Key definitions: `digit?`, `ofDigits`, `powerOfTwo`, `isTooLong`, `toDouble`.
-/

namespace PinLedger.Number

/-- The value of a digit of any base up to 36. -/
def digit? (c : Char) : Option Nat :=
  if '0' ≤ c ∧ c ≤ '9' then some (c.toNat - 48)
  else if 'a' ≤ c ∧ c ≤ 'z' then some (c.toNat - 87)
  else if 'A' ≤ c ∧ c ≤ 'Z' then some (c.toNat - 55)
  else none

/-- A power of two. -/
def powerOfTwo (n : Nat) : Nat := Nat.pow 2 n

/-- A power of ten. -/
def powerOfTen (n : Nat) : Nat := Nat.pow 10 n

/-- The most digits of a number that is written out. -/
def writtenDigits : Nat := 4300

/-- Has a number more decimal digits than are written out? -/
def isTooLong (n : Int) : Bool := powerOfTen writtenDigits ≤ n.natAbs

/-- One of `0 … 9`. -/
def isDigit (c : Char) : Bool := '0' ≤ c && c ≤ '9'

/-- The number that the digits spell in a base. Characters that are no digit count as zero. -/
def ofDigits (base : Nat) (cs : List Char) : Nat :=
  cs.foldl (fun n c => n * base + (digit? c).getD 0) 0

/-- The double nearest to `digits · 10 ^ exponent`, with a sign. -/
def toDouble (negative : Bool) (digits : Nat) (exponent : Int) : Float :=
  let places : Int := (Nat.toDigits 10 digits).length
  let size :=
    if digits = 0 then 0.0
    else if places + exponent > 310 then 1.0 / 0.0
    else if places + exponent < -330 then 0.0
    else match exponent with
      | .ofNat e => Float.ofScientific digits false e
      | .negSucc e => Float.ofScientific digits true (e + 1)
  if negative then -size else size

/-- The double of a numeral given as its digits before and after the point and its exponent. -/
def ofNumeral (negative : Bool) (whole fraction : List Char) (exponent : Int) : Float :=
  toDouble negative (ofDigits 10 (whole ++ fraction)) (exponent - fraction.length)

end PinLedger.Number

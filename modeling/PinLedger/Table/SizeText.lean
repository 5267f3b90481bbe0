/-
# The text of a size

Sizes below 1000 are written in bytes, larger ones with one decimal in the unit that leaves the
fewest digits before the point.

Key definition: `sizeText`.
-/
import PinLedger.Number.Rounded

namespace PinLedger

/-- The units above the byte, each 1000 times the one before. -/
def sizeUnits : List String := ["kB", "MB", "GB", "TB", "PB", "EB", "ZB", "YB"]

/-- The first unit of which a size is less than 1000, with its size in bytes; the last one if there
is no such unit. -/
def unitOf (n : Nat) (size : Nat) : List String → Option (String × Nat)
  | [] => none
  | [unit] => some (unit, size)
  | unit :: units => if n < 1000 * size then some (unit, size) else unitOf n (1000 * size) units

/-- A number of bytes in groups of three digits. -/
def bytesText (n : Int) : String :=
  (if n < 0 then "-" else "") ++ Number.grouped n.natAbs ++ " bytes"

/-- The text of a size, `none` for a size that no unit brings into reach. -/
def sizeText (n : Int) : Option String :=
  if n = 1 then some "1 byte"
  else if n < 1000 then some (bytesText n)
  else do
    let (unit, size) ← unitOf n.toNat 1000 sizeUnits
    let (mantissa, exponent) ← Number.nearestDouble? n.toNat size
    let t := Number.tenths mantissa exponent
    some (Number.grouped (t / 10) ++ "." ++ toString (t % 10) ++ " " ++ unit)

end PinLedger

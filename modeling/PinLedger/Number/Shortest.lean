/-
# The shortest decimal that reads back

A finite double is `m · 2 ^ q`, and all reals between the midpoints to its two neighbours read
back as it, the midpoints included when `m` is even. `shortest` goes through 1, 2, … 17 digits and
takes the first decimal grid with a point in that interval; only the two grid points around the
value have to be tried. All arithmetic is exact.

Key definitions: `Binary`, `Binary.ofFloat`, `Binary.shortest`.
-/
import PinLedger.Number.Decimal

namespace PinLedger.Number

/-- A positive finite double, taken apart: `mantissa · 2 ^ exponent`. -/
structure Binary where
  mantissa : Nat
  exponent : Int
  /-- The neighbour below is half as far away as the one above. -/
  closeBelow : Bool
deriving Repr

/-- What a double is. -/
inductive Double where
  | notANumber
  | infinite (negative : Bool)
  | zero (negative : Bool)
  | finite (negative : Bool) (size : Binary)

/-- Takes a double apart by its bits. -/
def Double.ofFloat (x : Float) : Double :=
  let bits := x.toBits.toNat
  let negative := bits / powerOfTwo 63 == 1
  let field : Nat := bits / powerOfTwo 52 % powerOfTwo 11
  let fraction : Nat := bits % powerOfTwo 52
  if field = 2047 then if fraction = 0 then .infinite negative else .notANumber
  else if field = 0 then
    if fraction = 0 then .zero negative else .finite negative ⟨fraction, -1074, false⟩
  else .finite negative
    ⟨powerOfTwo 52 + fraction, Int.ofNat field - 1075, fraction == 0 && 1 < field⟩

namespace Binary

/-- Numerator and denominator of `2 ^ (exponent - 2) / 10 ^ place`. -/
def gridScale (b : Binary) (place : Int) : Nat × Nat :=
  let two := b.exponent - 2
  (powerOfTwo two.toNat * powerOfTen (-place).toNat,
    powerOfTwo (-two).toNat * powerOfTen place.toNat)

/-- Does `x · 10 ^ place` read back as the value? -/
def readsBack (b : Binary) (place : Int) (x : Nat) : Bool :=
  let (num, den) := b.gridScale place
  let low := (4 * b.mantissa - if b.closeBelow then 1 else 2) * num
  let high := (4 * b.mantissa + 2) * num
  if b.mantissa % 2 = 0 then low ≤ x * den && x * den ≤ high
  else low < x * den && x * den < high

/-- The point of the grid with step `10 ^ place` that reads back, the nearer one of two. -/
def onGrid? (b : Binary) (place : Int) : Option Nat :=
  let (num, den) := b.gridScale place
  let exact := 4 * b.mantissa * num
  let below := exact / den
  let down := b.readsBack place below
  let up := b.readsBack place (below + 1)
  if down && up then
    let twice := 2 * (exact % den)
    some (if twice < den || (twice == den && below % 2 == 0) then below else below + 1)
  else if down then some below
  else if up then some (below + 1)
  else none

/-- The place of the first decimal digit of the value. -/
def leadingPlace (b : Binary) : Int :=
  let (num, den) := b.gridScale (-340)
  ((Nat.toDigits 10 (4 * b.mantissa * num / den)).length : Int) - 341

/-- Tries the grids from `digits` digits on. -/
def shortestFrom (b : Binary) (lead : Int) : Nat → Nat → Nat × Int
  | 0, _ => (0, 0)
  | tries + 1, digits =>
    let place := lead - digits + 1
    match b.onGrid? place with
    | some x => (x, place)
    | none => shortestFrom b lead tries (digits + 1)

/-- The shortest decimal that reads back, as `x` and `place` of `x · 10 ^ place`. -/
def shortest (b : Binary) : Nat × Int :=
  b.shortestFrom b.leadingPlace 17 1

end Binary

/-- How the text of a double is laid out. -/
structure DoubleFormat where
  /-- Positional from this place of the first digit on … -/
  leastPlace : Int
  /-- … up to this one. -/
  mostPlace : Int
  /-- The least number of digits of the exponent. -/
  exponentDigits : Nat
  notANumber : String
  infinity : String

/-- Fills a numeral with zeros on the left. -/
def padDigits (width : Nat) (cs : List Char) : List Char :=
  List.replicate (width - cs.length) '0' ++ cs

/-- The digits of a positive decimal in the given layout. -/
def DoubleFormat.layOut (f : DoubleFormat) (x : Nat) (place : Int) : List Char :=
  let all := Nat.toDigits 10 x
  let digits := (all.reverse.dropWhile (· == '0')).reverse
  let place := place + (all.length - digits.length : Nat)
  let lead := place + digits.length - 1
  if f.leastPlace ≤ lead ∧ lead ≤ f.mostPlace then
    if 0 ≤ place then digits ++ List.replicate place.toNat '0' ++ ['.', '0']
    else if 0 ≤ lead then digits.take (lead.toNat + 1) ++ '.' :: digits.drop (lead.toNat + 1)
    else '0' :: '.' :: List.replicate (-lead - 1).toNat '0' ++ digits
  else
    let tail := match digits with
      | [d] => [d]
      | d :: rest => d :: '.' :: rest
      | [] => []
    tail ++ 'e' :: (if lead < 0 then '-' else '+')
      :: padDigits f.exponentDigits (Nat.toDigits 10 lead.natAbs)

/-- The text of a double in the given layout. -/
def DoubleFormat.write (f : DoubleFormat) (x : Float) : String :=
  match Double.ofFloat x with
  | .notANumber => f.notANumber
  | .infinite negative => if negative then "-" ++ f.infinity else f.infinity
  | .zero negative => if negative then "-0.0" else "0.0"
  | .finite negative size =>
    let (digits, place) := size.shortest
    let body := f.layOut digits place
    String.ofList (if negative then '-' :: body else body)

/-- The whole number that a double is, if it is one. -/
def wholeOf? (x : Float) : Option Int :=
  match Double.ofFloat x with
  | .zero _ => some 0
  | .finite negative size =>
    let magnitude : Option Nat :=
      if 0 ≤ size.exponent then some (size.mantissa * powerOfTwo size.exponent.toNat)
      else if size.mantissa % powerOfTwo size.exponent.natAbs = 0 then
        some (size.mantissa / powerOfTwo size.exponent.natAbs)
      else none
    magnitude.map fun n => if negative then -(n : Int) else n
  | _ => none

/-- Neither infinite nor not a number. -/
def isFinite (x : Float) : Bool :=
  match Double.ofFloat x with
  | .zero _ | .finite .. => true
  | _ => false

end PinLedger.Number

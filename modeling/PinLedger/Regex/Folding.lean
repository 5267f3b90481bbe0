/-
# Letters that differ in case only

Where case does not matter, a character stands for all characters with the same lower case, and for
those whose lower case has the same upper case.

Key definitions: `Regex.Folding`, `Folding.variants`.
-/
import PinLedger.Text.Lower

namespace PinLedger.Regex

/-- Which letters are taken for each other. -/
inductive Folding where
  /-- None. -/
  | exact
  /-- The ASCII letters that differ in case. -/
  | ascii
  /-- All letters that differ in case. -/
  | full
deriving DecidableEq, Repr

/-- Lower-case letters that have the upper case of another lower-case letter. -/
def sameUpper : List (Nat × List Nat) := [
  (0x69, [0x131]), (0x73, [0x17F]), (0xB5, [0x3BC]), (0x131, [0x69]), (0x17F, [0x73]),
  (0x345, [0x3B9, 0x1FBE]), (0x390, [0x1FD3]), (0x3B0, [0x1FE3]), (0x3B2, [0x3D0]),
  (0x3B5, [0x3F5]), (0x3B8, [0x3D1]), (0x3B9, [0x345, 0x1FBE]), (0x3BA, [0x3F0]),
  (0x3BC, [0xB5]), (0x3C0, [0x3D6]), (0x3C1, [0x3F1]), (0x3C2, [0x3C3]), (0x3C3, [0x3C2]),
  (0x3C6, [0x3D5]), (0x3D0, [0x3B2]), (0x3D1, [0x3B8]), (0x3D5, [0x3C6]), (0x3D6, [0x3C0]),
  (0x3F0, [0x3BA]), (0x3F1, [0x3C1]), (0x3F5, [0x3B5]), (0x432, [0x1C80]), (0x434, [0x1C81]),
  (0x43E, [0x1C82]), (0x441, [0x1C83]), (0x442, [0x1C84, 0x1C85]), (0x44A, [0x1C86]),
  (0x463, [0x1C87]), (0x1C80, [0x432]), (0x1C81, [0x434]), (0x1C82, [0x43E]),
  (0x1C83, [0x441]), (0x1C84, [0x442, 0x1C85]), (0x1C85, [0x442, 0x1C84]), (0x1C86, [0x44A]),
  (0x1C87, [0x463]), (0x1C88, [0xA64B]), (0x1E61, [0x1E9B]), (0x1E9B, [0x1E61]),
  (0x1FBE, [0x345, 0x3B9]), (0x1FD3, [0x390]), (0x1FE3, [0x3B0]), (0xA64B, [0x1C88]),
  (0xFB05, [0xFB06]), (0xFB06, [0xFB05])]

/-- The lower case of a letter as a single letter. -/
def lowerLetter (c : Char) : Char := if c = 'İ' then 'i' else Text.lowerChar c

/-- The letters whose lower case is a given letter, and the letter itself. -/
def withLower (n : Nat) : List Nat :=
  let upper := Text.lowerRuns.filterMap fun r =>
    let source := (n : Int) - r.shift
    if 0 ≤ source && r.covers source.toNat then some source.toNat else none
  let ascii := if 0x61 ≤ n ∧ n ≤ 0x7A then [n - 32] else []
  n :: ascii ++ upper ++ (if n = 0x69 then [0x130] else [])

/-- The lower case of an ASCII letter. -/
def lowerAscii (c : Char) : Char := if 'A' ≤ c ∧ c ≤ 'Z' then Char.ofNat (c.toNat + 32) else c

namespace Folding

/-- The character that stands for all that it is taken for. -/
def base (f : Folding) (c : Char) : Char :=
  match f with
  | .exact => c
  | .ascii => lowerAscii c
  | .full => lowerLetter c

/-- The code points that a character is taken for. -/
def variants (f : Folding) (c : Char) : List Nat :=
  match f with
  | .exact => [c.toNat]
  | .ascii =>
    let n := (lowerAscii c).toNat
    if 0x61 ≤ n ∧ n ≤ 0x7A then [n, n - 32] else [n]
  | .full =>
    let n := (lowerLetter c).toNat
    (n :: (sameUpper.lookup n).getD []).flatMap withLower

end Folding

end PinLedger.Regex

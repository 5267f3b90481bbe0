/-
# Lower case

The full lower-case map of a text. Every letter moves by itself except two: the dotted capital I
becomes two characters, and the capital sigma becomes the word-final form when a letter with case
stands before it and none follows it.

Key definitions: `lowerChar`, `lower`.
-/
import PinLedger.Text.LowerTable

namespace PinLedger.Text

/-- Does the run cover the code point? -/
def LowerRun.covers (r : LowerRun) (n : Nat) : Bool :=
  r.first ≤ n && n ≤ r.last && (n - r.first) % r.step == 0

/-- The lower case of a single letter, the letter itself if it has none. -/
def lowerChar (c : Char) : Char :=
  if c.toNat < 0x80 then
    if 'A' ≤ c ∧ c ≤ 'Z' then Char.ofNat (c.toNat + 32) else c
  else
    match lowerRuns.find? (·.covers c.toNat) with
    | some r => Char.ofNat (c.toNat + r.shift).toNat
    | none => c

/-- Is the nearest character that is not skipped a letter with case? -/
def nextIsCased (cs : List Char) : Bool :=
  match cs.dropWhile skippedSet.has with
  | c :: _ => casedSet.has c
  | [] => false

/-- The lower case of `cs`, where `before` holds the characters already passed, last first. -/
def lowerAfter (before : List Char) : List Char → List Char
  | [] => []
  | c :: cs =>
    let out :=
      if c = 'Σ' then [if nextIsCased before && !nextIsCased cs then 'ς' else 'σ']
      else if c = 'İ' then ['i', '\u0307']
      else [lowerChar c]
    out ++ lowerAfter (c :: before) cs

/-- The lower case of a text. -/
def lower (s : String) : String :=
  String.ofList (lowerAfter [] s.toList)

end PinLedger.Text

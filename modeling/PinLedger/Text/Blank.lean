/-
# Blank characters

Two sets of blanks are in use. `isSpace` is the character standard's White_Space property;
`isBlank` adds the four information separators, and is what stripping and splitting at blanks go by.

Key definitions: `isSpace`, `isBlank`, `strip`.
Key theorem: `isBlank_of_isWhitespace`.
-/
import PinLedger.Text.CharSet

namespace PinLedger.Text

/-- The White_Space property. -/
def spaceSet : CharSet := [
  (0x9, 0xD), (0x20, 0x20), (0x85, 0x85), (0xA0, 0xA0), (0x1680, 0x1680), (0x2000, 0x200A),
  (0x2028, 0x2029), (0x202F, 0x202F), (0x205F, 0x205F), (0x3000, 0x3000)]

/-- White space by the character standard. -/
def isSpace (c : Char) : Bool := spaceSet.has c

/-- White space or an information separator. -/
def isBlank (c : Char) : Bool := isSpace c || (0x1C ≤ c.toNat && c.toNat ≤ 0x1F)

/-- Drops the characters that satisfy `p` from both ends. -/
def trimBoth (p : Char → Bool) (cs : List Char) : List Char :=
  ((cs.dropWhile p).reverse.dropWhile p).reverse

/-- Drops blanks from both ends. -/
def strip (s : String) : String :=
  String.ofList (trimBoth isBlank s.toList)

/-- Every character of the core library's class is blank. -/
theorem isBlank_of_isWhitespace {c : Char} (h : c.isWhitespace = true) : isBlank c = true := by
  simp only [Char.isWhitespace, Bool.or_eq_true, decide_eq_true_eq] at h
  rcases h with ((h | h) | h) | h <;> subst h <;> decide

end PinLedger.Text

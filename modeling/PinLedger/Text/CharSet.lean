/-
# Sets of characters given by ranges

A set of characters as a list of closed ranges of code points.

Key definition: `CharSet.has`.
-/

namespace PinLedger.Text

/-- Closed ranges of code points. -/
abbrev CharSet := List (Nat × Nat)

namespace CharSet

/-- A code point is in the set if some range covers it. -/
def hasCode (s : CharSet) (n : Nat) : Bool :=
  s.any fun r => r.1 ≤ n && n ≤ r.2

/-- A character is in the set if its code point is. -/
def has (s : CharSet) (c : Char) : Bool :=
  s.hasCode c.toNat

theorem hasCode_iff {s : CharSet} {n : Nat} : s.hasCode n = true ↔ ∃ r ∈ s, r.1 ≤ n ∧ n ≤ r.2 := by
  simp [hasCode, List.any_eq_true]

theorem hasCode_append (s t : CharSet) (n : Nat) :
    CharSet.hasCode (s ++ t) n = (s.hasCode n || CharSet.hasCode t n) := by
  simp [hasCode, List.any_append]

end CharSet

end PinLedger.Text

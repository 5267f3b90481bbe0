/-
# Terminal width

How many cells a text takes on a terminal. Two signs look beyond their own character: a joiner
draws the next character into the one before it, and a selector asks for the emoji form of the
last character that took room, which may be wider.

A text is cut between clusters. A cluster is a character that takes room, with the signs and the
characters without width behind it.

Key definitions: `charWidth`, `width`, `Cluster`, `clusters`, `cutToWidth`.
-/
import PinLedger.Text.WidthTable

namespace PinLedger.Text

/-- How many cells a character takes. -/
def charWidth (c : Char) : Nat :=
  if 0x20 ≤ c.toNat && c.toNat ≤ 0x7E then 1
  else if zeroWidthSet.has c then 0
  else if wideSet.has c then 2
  else 1

/-- Draws the next character into the one before it. -/
def joiner : Char := '\u200D'

/-- Asks for the emoji form of the character before it. -/
def emojiSelector : Char := '\uFE0F'

/-- How many cells characters take behind `last`, the last one that took room. -/
def widthAfter (last : Option Char) : List Char → Nat
  | [] => 0
  | c :: rest =>
    if c = joiner then
      match rest with
      | [] => 0
      | _ :: more => widthAfter last more
    else if c = emojiSelector then
      (if (last.map widenedSet.has).getD false then 1 else 0) + widthAfter none rest
    else charWidth c + widthAfter (if charWidth c = 0 then last else some c) rest

/-- How many cells a text takes. -/
def width (cs : List Char) : Nat := widthAfter none cs

/-! ### Cutting -/

/-- Characters that are drawn together, and the cells that they take. -/
structure Cluster where
  chars : List Char
  width : Nat
deriving DecidableEq, Repr, Inhabited

namespace Cluster

/-- A cluster with further characters and cells. -/
def extend (k : Cluster) (cs : List Char) (cells : Nat) : Cluster :=
  ⟨k.chars ++ cs, k.width + cells⟩

/-- Extends a cluster, or begins one without width. -/
def extendOrBegin (k : Option Cluster) (c : Char) (cells : Nat) : Cluster :=
  match k with
  | some k => k.extend [c] cells
  | none => ⟨[c], 0⟩

end Cluster

/-- The clusters of characters that go on from a cluster; `last` is the last character that took
room, as long as a selector may still widen it. -/
def clustersFrom (k : Option Cluster) (last : Option Char) : List Char → List Cluster
  | [] => k.toList
  | c :: rest =>
    if c = joiner then
      match k, rest with
      | some k, d :: more => clustersFrom (some (k.extend [c, d] 0)) last more
      | k, rest => clustersFrom (some (Cluster.extendOrBegin k c 0)) last rest
    else if c = emojiSelector then
      let widens := (last.map widenedSet.has).getD false
      clustersFrom (some (Cluster.extendOrBegin k c (if widens then 1 else 0)))
        (if widens then none else last) rest
    else if charWidth c = 0 then clustersFrom (some (Cluster.extendOrBegin k c 0)) last rest
    else k.toList ++ clustersFrom (some ⟨[c], charWidth c⟩) (some c) rest

/-- The clusters of a text. -/
def clusters (cs : List Char) : List Cluster := clustersFrom none none cs

/-- The clusters that fit into some cells; a cell that half a cluster is left for is blank. -/
def fitting : Nat → List Cluster → List Char
  | 0, _ => []
  | _, [] => []
  | n + 1, k :: ks =>
    if k.width ≤ n + 1 then k.chars ++ fitting (n + 1 - k.width) ks else [' ']

/-- Cuts a text to a width. -/
def cutToWidth (n : Nat) (cs : List Char) : List Char := fitting n (clusters cs)

end PinLedger.Text

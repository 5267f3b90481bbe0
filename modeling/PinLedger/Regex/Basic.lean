/-
# Regular expressions

A regular expression as a tree. Sequences and choices have two parts each. Tests on single
characters carry their own rule for case, so that a tree needs no flags beside it.

Key definitions: `Regex`, `CharTest`, `CharTest.holds`, `Regex.width`.
-/
import PinLedger.Regex.Folding
import PinLedger.Text.Blank
import PinLedger.Text.WordTable

namespace PinLedger.Regex

/-- A class of characters with a letter of its own. -/
inductive Category where
  | digit
  | space
  | word
deriving DecidableEq, Repr

/-- Is a character in a class, taken over all scripts or over ASCII alone? -/
def Category.has (ascii : Bool) (k : Category) (c : Char) : Bool :=
  match k with
  | .digit => if ascii then '0' ≤ c && c ≤ '9' else Text.digitSet.has c
  | .space =>
    if ascii then c == ' ' || (0x9 ≤ c.toNat && c.toNat ≤ 0xD) else Text.isBlank c
  | .word => if ascii then c.isAlphanum || c == '_' else Text.wordSet.has c

/-- A member of a set of characters. -/
inductive SetItem where
  | range (first last : Nat)
  | category (negated ascii : Bool) (k : Category)
deriving DecidableEq, Repr

/-- Does a member of a set cover a character? -/
def SetItem.covers (f : Folding) (c : Char) : SetItem → Bool
  | .range first last => (f.variants c).any fun n => first ≤ n && n ≤ last
  | .category negated ascii k => k.has ascii (f.base c) != negated

/-- A test on a single character. -/
inductive CharTest where
  | any
  | notLineEnd
  | set (negated : Bool) (f : Folding) (items : List SetItem)
deriving DecidableEq, Repr

/-- Does a character pass the test? -/
def CharTest.holds (c : Char) : CharTest → Bool
  | .any => true
  | .notLineEnd => c != '\n'
  | .set negated f items => (items.any (·.covers f c)) != negated

/-- A place in the text. -/
inductive Anchor where
  | textStart
  | lineStart
  | textEnd
  /-- The end, or the place before a line feed that ends the text. -/
  | lastLineEnd
  | lineEnd
  | wordEdge (negated ascii : Bool)
deriving DecidableEq, Repr

/-- How a repetition chooses between one more round and going on. -/
inductive Greed where
  /-- One more round first. -/
  | greedy
  /-- Going on first. -/
  | lazy
  /-- As many rounds as possible, with no way back. -/
  | possessive
deriving DecidableEq, Repr

end Regex

/-- A regular expression. -/
inductive Regex where
  | empty
  | char (test : Regex.CharTest)
  | seq (a b : Regex)
  | alt (a b : Regex)
  | repeat (greed : Regex.Greed) (least : Nat) (most : Option Nat) (body : Regex)
  | group (number : Nat) (body : Regex)
  | atomic (body : Regex)
  | look (ahead negated : Bool) (body : Regex)
  | anchor (a : Regex.Anchor)
  | back (number : Nat) (f : Regex.Folding) (least : Nat) (most : Option Nat)
  | ifGroup (number : Nat) (yes no : Regex)
deriving Repr, Inhabited

namespace Regex

/-- How many characters a match may have; no upper bound is `none`. -/
structure Width where
  least : Nat
  most : Option Nat
deriving DecidableEq, Repr

namespace Width

/-- The width of one after the other. -/
def add (a b : Width) : Width :=
  ⟨a.least + b.least, match a.most, b.most with
    | some m, some n => some (m + n)
    | _, _ => none⟩

/-- The width of one or the other. -/
def join (a b : Width) : Width :=
  ⟨min a.least b.least, match a.most, b.most with
    | some m, some n => some (max m n)
    | _, _ => none⟩

/-- The width of repetitions. -/
def times (w : Width) (least : Nat) (most : Option Nat) : Width :=
  ⟨w.least * least, match w.most, most with
    | some 0, _ => some 0
    | some m, some n => some (m * n)
    | _, _ => none⟩

/-- Is there a single width? -/
def isFixed (w : Width) : Bool := w.most == some w.least

end Width

/-- The width of the matches of a regular expression. -/
def width : Regex → Width
  | .empty => ⟨0, some 0⟩
  | .char _ => ⟨1, some 1⟩
  | .seq a b => a.width.add b.width
  | .alt a b => a.width.join b.width
  | .repeat _ least most body => body.width.times least most
  | .group _ body => body.width
  | .atomic body => body.width
  | .look .. => ⟨0, some 0⟩
  | .anchor _ => ⟨0, some 0⟩
  | .back _ _ least most => ⟨least, most⟩
  | .ifGroup _ yes no => yes.width.join no.width

end Regex

end PinLedger

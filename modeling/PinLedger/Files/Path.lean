/-
# Paths

A path is a list of names, taken from the top or from the working directory. Empty names and `.`
say nothing and are dropped; `..` stays, as what it means depends on links.

Key definitions: `Path`, `Path.ofText`, `Path.text`, `Path.join`, `Path.parent`.
-/
import PinLedger.Text.Split

namespace PinLedger

/-- Where a path starts. -/
inductive Anchor where
  /-- The working directory. -/
  | here
  /-- The top directory. -/
  | top
  /-- The top directory, written with two slashes. -/
  | doubleTop
deriving DecidableEq, Repr, Inhabited

/-- A path. -/
structure Path where
  anchor : Anchor
  names : List String
deriving DecidableEq, Repr, Inhabited

namespace Path

/-- The text in front of the first name. -/
def anchorText : Anchor → String
  | .here => ""
  | .top => "/"
  | .doubleTop => "//"

/-- The anchor that a text starts with: two slashes count only if there is no third. -/
def anchorOf : List Char → Anchor
  | '/' :: '/' :: '/' :: _ => .top
  | '/' :: '/' :: _ => .doubleTop
  | '/' :: _ => .top
  | _ => .here

/-- The names of a text between slashes, as they stand. -/
def namesOf (s : String) : List String :=
  (Text.split '/' s).filter fun name => name != "" && name != "."

/-- Reads a path. -/
def ofText (s : String) : Path := ⟨anchorOf s.toList, namesOf s⟩

/-- Writes a path. -/
def text (p : Path) : String :=
  if p.anchor = .here ∧ p.names = [] then "."
  else anchorText p.anchor ++ "/".intercalate p.names

/-- Does the path start at the top? -/
def isAbsolute (p : Path) : Bool := p.anchor != .here

/-- The path `q` as seen from the directory `p`. -/
def join (p q : Path) : Path :=
  if q.isAbsolute then q else ⟨p.anchor, p.names ++ q.names⟩

/-- A path one name further. -/
def child (p : Path) (name : String) : Path := ⟨p.anchor, p.names ++ [name]⟩

/-- The path without its last name. -/
def parent (p : Path) : Path := ⟨p.anchor, p.names.dropLast⟩

/-- The last name of a path. -/
def name (p : Path) : String := p.names.getLast?.getD ""

/-- Does a name of the path hold a NUL, which no name of a file can? -/
def hasNul (p : Path) : Bool := p.names.any fun name => name.toList.contains '\x00'

/-- The path itself and the directories above it, nearest first. -/
def withParents (p : Path) : List Path :=
  (List.range (p.names.length + 1)).map fun n => ⟨p.anchor, p.names.take (p.names.length - n)⟩

theorem name_child (p : Path) (name : String) : (p.child name).name = name := by
  simp [Path.name, child]

end Path

end PinLedger

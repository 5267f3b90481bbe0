/-
# Reading YAML

The nodes of a document stand for values as their tags say. Tables may take entries over from
others: what they take over comes first, and their own entries count. Of several faults the one
least deep in the document is reported, of those the first.

Key definitions: `Built`, `Word`, `Node.build`, `Yaml.parse`.
-/
import PinLedger.Yaml.Node

namespace PinLedger.Yaml

open Document

/-- A fault and how deep in the document it is. -/
structure DeepFault where
  depth : Nat
  fault : Fault
deriving DecidableEq, Repr

/-- What a part of a document stands for, or its first fault. -/
abbrev Built (α : Type) := Except DeepFault α

namespace Built

/-- A fault. -/
def fault {α : Type} (depth : Nat) (f : Fault) : Built α := .error ⟨depth, f⟩

/-- A reading of a scalar at a depth. -/
def ofRead {α : Type} (depth : Nat) : Except Fault α → Built α
  | .ok a => .ok a
  | .error f => fault depth f

/-- Two parts together; of two faults the less deep one counts, else the first. -/
def both {α β γ : Type} (f : α → β → γ) : Built α → Built β → Built γ
  | .ok a, .ok b => .ok (f a b)
  | .error e, .ok _ => .error e
  | .ok _, .error e => .error e
  | .error e, .error e' => .error (if e'.depth < e.depth then e' else e)

/-- Parts together. -/
def all {α : Type} : List (Built α) → Built (List α)
  | [] => .ok []
  | a :: as => both List.cons a (all as)

end Built

/-- A word of a document with the tag that it is read by. The main value of a table stands for the
table. -/
structure Word where
  tag : Tag
  text : String
  isMain : Bool
deriving DecidableEq, Repr

/-- Reads a word. A stamp is looked for in the node itself, and a table has no text. -/
def Word.read (w : Word) : Except Fault Value :=
  if w.isMain && w.tag = .stamp then .error .noText else Scalar.read w.tag w.text

/-- Is a tag one for words? -/
def Tag.isForWords (tag : Tag) : Bool :=
  [.null, .bool, .int, .float, .binary, .stamp, .text].contains tag

/-- An entry of a table. -/
abbrev Entry := Value × Value

namespace Node

mutual

/-- Can everything be merged that entries ask to be merged? -/
def entriesMergeable : List (Node × Node) → Bool
  | [] => true
  | (k, v) :: rest => (k.tag != .merge || source v) && entriesMergeable rest

/-- Can a node be merged into a table? It is a table or a list of tables. -/
def source : Node → Bool
  | .scalar .. => false
  | .list _ items => sources items
  | .table _ entries => entriesMergeable entries

/-- Can all nodes be merged? -/
def sources : List Node → Bool
  | [] => true
  | .table _ entries :: rest => entriesMergeable entries && sources rest
  | _ :: _ => false

end

mutual

/-- The text of a node that is read as a scalar; a table may name one as its main value. -/
def scalarText? : Node → Option String
  | .scalar _ text => some text
  | .list .. => none
  | .table _ entries => mainText? entries

/-- The text of the main value among entries. -/
def mainText? : List (Node × Node) → Option String
  | [] => none
  | (k, v) :: rest => if k.tag = .main then scalarText? v else mainText? rest

end

/-- Is a node a table? -/
def isTable : Node → Bool
  | .table .. => true
  | _ => false

/-- A node as a word with a tag. -/
def wordAs? (n : Node) (tag : Tag) : Option Word :=
  n.scalarText?.map fun text => ⟨tag, text, n.isTable⟩

/-- Reads a node as a word with a tag. -/
def readAs (n : Node) (depth : Nat) (tag : Tag) : Built Value :=
  match n.wordAs? tag with
  | some w => Built.ofRead depth w.read
  | none => Built.fault depth .malformed

/-- Reads a key, which is a word. The sign for a main value counts as a text. -/
def readKey (k : Node) (depth : Nat) : Built Value :=
  let tag := if k.tag = .main then .text else k.tag
  if tag.isForWords then k.readAs depth tag else Built.fault depth .malformed

/-- The entries that a table takes over and its own ones. -/
structure Parts where
  merged : List (Built Entry)
  own : List (Built Entry)

/-- All entries in order. -/
def Parts.toList (p : Parts) : List (Built Entry) := p.merged ++ p.own

/-- The entries in order, a later one in the place of an earlier one with the same key. -/
def collect (entries : List Entry) : List Entry :=
  entries.foldl (fun es e => putEntry es e.1 e.2) []

mutual

/-- The value of a node at a depth. -/
def build (depth : Nat) : Node → Built Value
  | .scalar tag text =>
    match tag with
    | .list | .table | .set | .ordered | .pairs => Built.fault (depth + 1) .malformed
    | _ => readAs (.scalar tag text) depth tag
  | .list tag items =>
    match tag with
    | .list => Value.list <$> Built.all (buildItems (depth + 1) items)
    | .ordered | .pairs => Value.list <$> Built.all (buildPairs (depth + 1) items)
    | .table | .set => Built.fault (depth + 1) .malformed
    | _ => Built.fault depth .malformed
  | .table tag entries =>
    match tag with
    | .table =>
      if entriesMergeable entries then
        (fun es => Value.table (collect es)) <$> Built.all (buildEntries (depth + 1) entries).toList
      else Built.fault (depth + 1) .malformed
    | .set =>
      if entriesMergeable entries then
        (fun es => Value.set ((collect es).map (·.1)))
          <$> Built.all (buildEntries (depth + 1) entries).toList
      else Built.fault (depth + 1) .malformed
    | .list | .ordered | .pairs => Built.fault (depth + 1) .malformed
    | _ => readAs (.table tag entries) depth tag

/-- The values of the items of a list. -/
def buildItems (depth : Nat) : List Node → List (Built Value)
  | [] => []
  | n :: ns => build depth n :: buildItems depth ns

/-- The values of items that are tables of one entry each. -/
def buildPairs (depth : Nat) : List Node → List (Built Value)
  | [] => []
  | .table _ [(k, v)] :: ns =>
    Built.both (fun k v => .list [k, v]) (build depth k) (build depth v) :: buildPairs depth ns
  | _ :: ns => Built.fault depth .malformed :: buildPairs depth ns

/-- The entries of a table. -/
def buildEntries (depth : Nat) : List (Node × Node) → Parts
  | [] => ⟨[], []⟩
  | (k, v) :: rest =>
    let more := buildEntries depth rest
    if k.tag = .merge then ⟨buildSource depth v ++ more.merged, more.own⟩
    else
      ⟨more.merged, Built.both Prod.mk (k.readKey depth) (build depth v) :: more.own⟩

/-- The entries of a node that is merged into a table. -/
def buildSource (depth : Nat) : Node → List (Built Entry)
  | .scalar .. => []
  | .list _ items => buildSources depth items
  | .table _ entries => (buildEntries depth entries).toList

/-- The entries of nodes that are merged into a table; the first of them counts most, so it comes
last. -/
def buildSources (depth : Nat) : List Node → List (Built Entry)
  | [] => []
  | n :: ns => buildSources depth ns ++ buildSource depth n

end

/-- The value of a document. -/
def toValue (n : Node) : Except Fault Value := (n.build 0).mapError DeepFault.fault

end Node

/-- Reads a text; one without a document stands for null. -/
def parse (s : Source) : Except Fault Value := do
  match ← Node.ofSource s with
  | none => return .null
  | some n => n.toValue

end PinLedger.Yaml

/-
# YAML nodes

The tokens of a text form a tree of nodes. A node may be given a name and stand in another place
under it. A text holds one document at most. Nodes are read while tokens are made, so the first
fault of either counts.

Key definitions: `Node`, `Reader`, `Node.ofSource`.
-/
import PinLedger.Yaml.Layout
import PinLedger.Yaml.Scalar

namespace PinLedger.Yaml

/-- A node of a document. -/
inductive Node where
  | scalar (tag : Tag) (text : String)
  | list (tag : Tag) (items : List Node)
  | table (tag : Tag) (entries : List (Node × Node))
deriving Inhabited

/-- The tag of a node. -/
def Node.tag : Node → Tag
  | .scalar tag _ => tag
  | .list tag _ => tag
  | .table tag _ => tag

/-- What stands where nothing is written. -/
def Node.empty : Node := .scalar .null ""

/-- What a name stands for inside its own node, which begins with a token: an empty node of the
same kind. -/
def Node.inItself : Token → Node
  | .listStart | .blockListStart | .blockEntry => .list .list []
  | .tableStart | .blockTableStart => .table .table []
  | _ => .empty

/-- What is known while nodes are read: where the tokens come from, the meanings of tag handles, and
the named nodes. -/
structure Progress where
  layout : Layout
  handles : List (String × String)
  names : List (String × Node)

/-- Steps that read nodes. -/
abbrev Reader := Reading Progress

namespace Reader

open Reading (malformed require)

/-- Steps on tokens. -/
def onTokens {α : Type} (m : Tokenizer α) : Reader α :=
  m.within Progress.layout fun l p => { p with layout := l }

/-- The next token. -/
def peek : Reader Token := onTokens Layout.nextToken

/-- Passes the next token. -/
def pass : Reader Unit := onTokens Layout.takeToken

/-- Passes a token that has to stand here. -/
def expect (t : Token) : Reader Unit := do
  require ((← peek) == t)
  pass

/-- The node of a name. -/
def named (name : String) : Reader Node := do
  match (← get).names.lookup name with
  | some node => return node
  | none => malformed

/-- Gives a node a name. -/
def giveName (name : String) (node : Node) : Reader Unit :=
  modify fun p => { p with names := (name, node) :: p.names }

/-- Gives a name to the node that begins here. -/
def opened : Option String → Reader Unit
  | none => return ()
  | some name => do
    let start ← peek
    require ((← get).names.lookup name).isNone
    giveName name (Node.inItself start)

/-- Gives a node its name. -/
def closed : Option String → Node → Reader Node
  | none, node => return node
  | some name, node => do
    giveName name node
    return node

/-- The name and the tag in front of a node. -/
structure Properties where
  name : Option String
  tag : Option String

/-- The uri of a tag; its handle must have a meaning. -/
def uriOf : Option (Option String × String) → Reader (Option String)
  | none => return none
  | some (none, suffix) => return some suffix
  | some (some handle, suffix) => do
    match (← get).handles.lookup handle with
    | some meaning => return some (meaning ++ suffix)
    | none => malformed

/-- Reads a name. -/
def name? : Reader (Option String) := do
  match ← peek with
  | .anchor name =>
    pass
    return some name
  | _ => return none

/-- Reads a tag: its handle and the rest. -/
def tag? : Reader (Option (Option String × String)) := do
  match ← peek with
  | .tag handle suffix =>
    pass
    return some (handle, suffix)
  | _ => return none

/-- Reads a name and a tag in either order. -/
def properties : Reader Properties := do
  match ← name? with
  | some name => return ⟨some name, ← uriOf (← tag?)⟩
  | none =>
    match ← tag? with
    | some tag =>
      let name ← name?
      return ⟨name, ← uriOf (some tag)⟩
    | none => return ⟨none, none⟩

/-- The tag of a node: its own one, or `default` if it has none or the one that asks for none. -/
def Properties.tagOr (p : Properties) (default : Tag) : Tag :=
  match p.tag with
  | none | some "!" => default
  | some uri => Tag.ofUri uri

/-- The tag of a scalar. -/
def Properties.scalarTag (p : Properties) (text : String) (plain : Bool) : Tag :=
  p.tagOr (if plain || p.tag.isSome then Tag.ofForm text else .text)

/-! ### Nodes -/

/-- What stands for the content of a node without any: it needs a name or a tag. -/
def noContent (p : Properties) : Reader Node := do
  if p.name.isSome || p.tag.isSome then return .scalar (p.scalarTag "" true) "" else malformed

/-- Passes the comma in front of an item or entry that is not the first one. -/
def separator (first : Bool) (close : Token) : Reader Unit := do
  if !first && (← peek) != close then expect .flowEntry

mutual

/-- Reads a node, inside a block or brackets. `loose` says that the items of a list may stand where
the keys of their table do. -/
def node (inBlock loose : Bool) : Nat → Reader Node
  | 0 => malformed
  | fuel + 1 => do
    match ← peek with
    | .alias name =>
      pass
      named name
    | _ =>
      let p ← properties
      opened p.name
      closed p.name (← content inBlock loose p fuel)

/-- Reads the content of a node behind its properties. -/
def content (inBlock loose : Bool) (p : Properties) : Nat → Reader Node
  | 0 => malformed
  | fuel + 1 => do
    match ← peek, inBlock, loose with
    | .blockEntry, _, true => return .list (p.tagOr .list) (← looseItems fuel)
    | .scalar text plain, _, _ =>
      pass
      return .scalar (p.scalarTag text plain) text
    | .listStart, _, _ =>
      pass
      return .list (p.tagOr .list) (← flowItems true fuel)
    | .tableStart, _, _ =>
      pass
      return .table (p.tagOr .table) (← flowEntries true fuel)
    | .blockListStart, true, _ =>
      pass
      return .list (p.tagOr .list) (← blockItems fuel)
    | .blockTableStart, true, _ =>
      pass
      return .table (p.tagOr .table) (← blockEntries fuel)
    | _, _, _ => noContent p

/-- Reads a node, or nothing if one of some tokens follows. -/
def nodeBefore (ends : List Token) (inBlock loose : Bool) : Nat → Reader Node
  | 0 => malformed
  | fuel + 1 => do
    if ends.contains (← peek) then return Node.empty else node inBlock loose fuel

/-- Reads the value of a key, nothing if there is no colon. -/
def valueBefore (ends : List Token) (inBlock loose : Bool) : Nat → Reader Node
  | 0 => malformed
  | fuel + 1 => do
    if (← peek) = .value then
      pass
      nodeBefore ends inBlock loose fuel
    else return Node.empty

/-- Reads the items of a block list. -/
def blockItems : Nat → Reader (List Node)
  | 0 => malformed
  | fuel + 1 => do
    match ← peek with
    | .blockEntry =>
      pass
      let n ← nodeBefore [.blockEntry, .blockEnd] true false fuel
      return n :: (← blockItems fuel)
    | .blockEnd =>
      pass
      return []
    | _ => malformed

/-- Reads the items of a block list that is indented like its table. -/
def looseItems : Nat → Reader (List Node)
  | 0 => malformed
  | fuel + 1 => do
    if (← peek) = .blockEntry then
      pass
      let n ← nodeBefore [.blockEntry, .key, .value, .blockEnd] true false fuel
      return n :: (← looseItems fuel)
    else return []

/-- Reads the entries of a block table. -/
def blockEntries : Nat → Reader (List (Node × Node))
  | 0 => malformed
  | fuel + 1 => do
    match ← peek with
    | .key =>
      pass
      let ends := [.key, .value, .blockEnd]
      let k ← nodeBefore ends true true fuel
      let v ← valueBefore ends true true fuel
      return (k, v) :: (← blockEntries fuel)
    | .blockEnd =>
      pass
      return []
    | _ => malformed

/-- Reads the items of a list in brackets; a key makes an item a table of one entry. -/
def flowItems (first : Bool) : Nat → Reader (List Node)
  | 0 => malformed
  | fuel + 1 => do
    separator first .listEnd
    match ← peek with
    | .listEnd =>
      pass
      return []
    | .key =>
      pass
      let k ← nodeBefore [.value, .flowEntry, .listEnd] false false fuel
      let v ← valueBefore [.flowEntry, .listEnd] false false fuel
      return .table .table [(k, v)] :: (← flowItems false fuel)
    | _ =>
      let n ← node false false fuel
      return n :: (← flowItems false fuel)

/-- Reads the entries of a table in braces; one without a key token has no value. -/
def flowEntries (first : Bool) : Nat → Reader (List (Node × Node))
  | 0 => malformed
  | fuel + 1 => do
    separator first .tableEnd
    match ← peek with
    | .tableEnd =>
      pass
      return []
    | .key =>
      pass
      let k ← nodeBefore [.value, .flowEntry, .tableEnd] false false fuel
      let v ← valueBefore [.flowEntry, .tableEnd] false false fuel
      return (k, v) :: (← flowEntries false fuel)
    | _ =>
      let n ← node false false fuel
      return (n, Node.empty) :: (← flowEntries false fuel)

end

/-! ### Documents -/

/-- The meanings that tag handles have without a directive. -/
def commonHandles : List (String × String) := [("!", "!"), ("!!", Tag.commonStart)]

/-- Reads directives: at most one version, which must be 1, and each handle once. -/
def directives : Nat → (versionSeen : Bool) → Reader Unit
  | 0, _ => malformed
  | fuel + 1, versionSeen => do
    match ← peek with
    | .directive (.version major) =>
      pass
      require (!versionSeen && major == 1)
      directives fuel true
    | .directive (.handle name meaning) =>
      pass
      require ((← get).handles.lookup name).isNone
      modify fun p => { p with handles := (name, meaning) :: p.handles }
      directives fuel versionSeen
    | .directive .other =>
      pass
      directives fuel versionSeen
    | _ => return ()

/-- Reads the directives of a document and the mark that begins it. -/
def documentStart (fuel : Nat) : Reader Unit := do
  modify fun p => { p with handles := [] }
  directives fuel false
  modify fun p => { p with handles := p.handles ++ commonHandles }
  expect .documentStart

/-- Passes the marks that end a document, and the end of the text. There is no other document. -/
def ends : Nat → Reader Unit
  | 0 => malformed
  | fuel + 1 => do
    match ← peek with
    | .documentEnd =>
      pass
      ends fuel
    | .streamEnd => return ()
    | _ =>
      documentStart fuel
      malformed

/-- Reads the node of a document behind the mark that begins it. -/
def documentContent (fuel : Nat) : Reader Node := do
  match ← peek with
  | .directive _ | .documentStart | .documentEnd | .streamEnd => return Node.empty
  | _ => node true false fuel

/-- Reads a text: its document, if it has one. -/
def stream (fuel : Nat) : Reader (Option Node) := do
  match ← peek with
  | .streamEnd => return none
  | .directive _ | .documentStart =>
    documentStart fuel
    let n ← documentContent fuel
    ends fuel
    return some n
  | _ =>
    let n ← node true false fuel
    ends fuel
    return some n

/-- No text has more nodes inside each other and behind each other than this. -/
def bound (s : Source) : Nat := 16 * (s.chars.length + 1)

end Reader

/-- The node that a text forms, nothing for a text without a document. -/
def Node.ofSource (s : Source) : Except Fault (Option Node) := do
  let (n, _) ← Reader.stream (Reader.bound s) ⟨Layout.ofSource s, Reader.commonHandles, []⟩
  return n

end PinLedger.Yaml

/-
# File trees

A file tree is a value: directories with named entries, files with their content, and symbolic
links with the text they point to. A path is looked up name by name. A link met on the way is
replaced by its target, at most forty times.

Key definitions: `Content`, `Node`, `FileTree`, `FileTree.walk`, `FileTree.find`,
`FileTree.findLink`, `OsFault`.
-/
import PinLedger.Files.Path
import PinLedger.Text.Quoted

namespace PinLedger

/-- What a file holds: given octets, or as many zero octets as its size says. -/
inductive Content where
  | octets (os : List UInt8)
  | zeros (size : Nat)
deriving Inhabited

/-- The size of a file in octets. -/
def Content.size : Content → Nat
  | .octets os => os.length
  | .zeros n => n

/-- The octets of a file. -/
def Content.toOctets : Content → List UInt8
  | .octets os => os
  | .zeros n => List.replicate n 0

/-- An entry of a directory. -/
inductive Node where
  | file (content : Content)
  | link (target : String)
  | dir (entries : List (String × Node))
deriving Inhabited

/-- Why a path cannot be used. -/
inductive OsReason where
  | missing
  | notDirectory
  | isDirectory
  | nameTooLong
  | linkLoop
deriving DecidableEq, Repr, Inhabited

/-- The number of a reason. -/
def OsReason.number : OsReason → Nat
  | .missing => 2
  | .notDirectory => 20
  | .isDirectory => 21
  | .nameTooLong => 36
  | .linkLoop => 40

/-- The text of a reason. -/
def OsReason.text : OsReason → String
  | .missing => "No such file or directory"
  | .notDirectory => "Not a directory"
  | .isDirectory => "Is a directory"
  | .nameTooLong => "File name too long"
  | .linkLoop => "Too many levels of symbolic links"

/-- A reason and the path that it holds for. -/
structure OsFault where
  reason : OsReason
  path : String
deriving DecidableEq, Repr, Inhabited

/-- The text of a fault. -/
def OsFault.text (f : OsFault) : String :=
  "[Errno " ++ toString f.reason.number ++ "] " ++ f.reason.text ++ ": " ++ Text.quoted f.path

namespace Node

/-- The entry of a directory with a name. -/
def child? (n : Node) (name : String) : Option Node :=
  match n with
  | .dir entries => entries.lookup name
  | _ => none

/-- The node at the end of a list of names, no link followed. -/
def at? (n : Node) : List String → Option Node
  | [] => some n
  | name :: names => (n.child? name).bind (·.at? names)

/-- Sets or removes an entry of a list of entries; a new entry goes last. -/
def setEntry (entries : List (String × Node)) (name : String) (new : Option Node) :
    List (String × Node) :=
  match new with
  | some n =>
    if entries.any fun e => e.1 == name then
      entries.map fun e => if e.1 == name then (name, n) else e
    else entries ++ [(name, n)]
  | none => entries.filter fun e => e.1 != name

/-- Sets or removes the node at the end of a list of names, making directories on the way. -/
def update (n : Node) (new : Option Node) : List String → Node
  | [] => new.getD n
  | [name] =>
    match n with
    | .dir entries => .dir (setEntry entries name new)
    | _ => n
  | name :: names =>
    match n with
    | .dir entries =>
      let below := (entries.lookup name).getD (.dir [])
      .dir (setEntry entries name (some (below.update new names)))
    | _ => n

/-- Is the node a directory? -/
def isDir : Node → Bool
  | .dir _ => true
  | _ => false

/-- Is the node a file? -/
def isFile : Node → Bool
  | .file _ => true
  | _ => false

/-- Is the node a link? -/
def isLink : Node → Bool
  | .link _ => true
  | _ => false

end Node

/-- A top directory and the working directory below it. -/
structure FileTree where
  top : Node
  here : List String
deriving Inhabited

namespace FileTree

/-- The longest name that a directory can hold, in octets. -/
def maxNameSize : Nat := 255

/-- How many links are followed for one path. -/
def maxLinks : Nat := 40

/-- The names that a link's target puts in its place; a slash at its end asks for a directory. -/
def targetNames (target : String) : List String :=
  let names := Text.split '/' target
  names.filter (· != "") ++ (if names.getLast? == some "" then ["."] else [])

/-- Walks from the directory `here` along `names`. The link at the very end is followed only if
`followLast` says so. The result is where the walk ends, with the node there. -/
def walk (t : FileTree) (followLast : Bool) (links : Nat) (here names : List String) :
    Except OsReason (List String × Node) :=
  match names with
  | [] =>
    match t.top.at? here with
    | some n => .ok (here, n)
    | none => .error .missing
  | name :: rest =>
    match t.top.at? here with
    | some (.dir entries) =>
      if name = "." ∨ name = "" then walk t followLast links here rest
      else if name = ".." then walk t followLast links here.dropLast rest
      else if maxNameSize < name.utf8ByteSize then .error .nameTooLong
      else match entries.lookup name with
        | none => .error .missing
        | some (.link target) =>
          if rest.isEmpty && !followLast then .ok (here ++ [name], .link target)
          else match links with
            | 0 => .error .linkLoop
            | more + 1 =>
              let start := if target.startsWith "/" then [] else here
              walk t followLast more start (targetNames target ++ rest)
        | some _ => walk t followLast links (here ++ [name]) rest
    | some _ => .error .notDirectory
    | none => .error .missing
termination_by (links, names.length)

/-- Where the walk for a path starts. -/
def start (t : FileTree) (p : Path) : List String :=
  if p.isAbsolute then [] else t.here

/-- The place and node of a path, links followed. -/
def locate (t : FileTree) (p : Path) : Except OsReason (List String × Node) :=
  t.walk true maxLinks (t.start p) p.names

/-- The node of a path, links followed. -/
def find (t : FileTree) (p : Path) : Except OsReason Node :=
  (t.locate p).map (·.2)

/-- The node of a path; a link at its end is not followed. -/
def findLink (t : FileTree) (p : Path) : Except OsReason Node :=
  (t.walk false maxLinks (t.start p) p.names).map (·.2)

/-- A question about a path whose answer is no where nothing can be found; a name that is too long
is an error. -/
def ask (p : Path) (found : Except OsReason Node) (test : Node → Bool) : Except OsFault Bool :=
  match found with
  | .ok n => .ok (test n)
  | .error .nameTooLong => .error ⟨.nameTooLong, p.text⟩
  | .error _ => .ok false

/-- Is there anything at the path? -/
def exists? (t : FileTree) (p : Path) : Except OsFault Bool := ask p (t.find p) fun _ => true

/-- Is there a directory at the path? -/
def isDir? (t : FileTree) (p : Path) : Except OsFault Bool := ask p (t.find p) Node.isDir

/-- Is there a file at the path? -/
def isFile? (t : FileTree) (p : Path) : Except OsFault Bool := ask p (t.find p) Node.isFile

/-- Is there a link at the path? -/
def isLink? (t : FileTree) (p : Path) : Except OsFault Bool := ask p (t.findLink p) Node.isLink

/-- Is the question answered with yes, a name that is too long counting as no? -/
def holds (answer : Except OsFault Bool) : Bool :=
  match answer with
  | .ok b => b
  | .error _ => false

/-- The content of the file at a path. -/
def read (t : FileTree) (p : Path) : Except OsFault Content :=
  match t.find p with
  | .ok (.file content) => .ok content
  | .ok _ => .error ⟨.isDirectory, p.text⟩
  | .error reason => .error ⟨reason, p.text⟩

/-- The entries of the directory at a path, in the order they were made. -/
def entries (t : FileTree) (p : Path) : Except OsFault (List (String × Node)) :=
  match t.find p with
  | .ok (.dir es) => .ok es
  | .ok _ => .error ⟨.notDirectory, p.text⟩
  | .error reason => .error ⟨reason, p.text⟩

/-- Follows names from a directory, links included, and makes a directory wherever there is
nothing. The place is where the way ends. -/
def makeWay (t : FileTree) (here : List String) : List String → FileTree × List String
  | [] => (t, here)
  | name :: names =>
    match t.walk true maxLinks here [name] with
    | .ok (place, _) => makeWay t place names
    | .error _ =>
      let place := here ++ [name]
      makeWay { t with top := t.top.update (some (.dir [])) place } place names

/-- Puts a node at a path, making directories on the way. A file goes where a link at its place
points to, and a directory replaces nothing. -/
def put (t : FileTree) (p : Path) (n : Node) : FileTree :=
  let (t, dir) := t.makeWay (t.start p) p.parent.names
  let place := dir ++ [p.name]
  match n, t.top.at? place with
  | .file _, some (.link target) =>
    let aim := Path.ofText target
    let goal := if aim.isAbsolute then aim.names else dir ++ aim.names
    match t.locate p with
    | .ok (found, _) => { t with top := t.top.update (some n) found }
    | .error _ => { t with top := t.top.update (some n) goal }
  | .dir _, some _ => t
  | _, _ => { t with top := t.top.update (some n) place }

/-- Removes what is at a path, with all below it. -/
def remove (t : FileTree) (p : Path) : FileTree :=
  match t.walk false maxLinks (t.start p) p.names with
  | .ok (place, _) => { t with top := t.top.update none place }
  | .error _ => t

end FileTree

end PinLedger

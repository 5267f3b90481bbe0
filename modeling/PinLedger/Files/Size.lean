/-
# The size of a directory

The size of everything below a directory: the sizes of its files, added up. A link below it counts
for nothing and is not followed, so no file is counted twice. The path itself may be a link.

Key definitions: `Node.size`, `Node.linksBelow`, `FileTree.sizeAt`.
-/
import PinLedger.Files.Resolve
import PinLedger.Trail

namespace PinLedger

namespace Node

mutual

/-- The size of a file, or of all files below a directory. A link has none. -/
def size : Node → Nat
  | .file content => content.size
  | .link _ => 0
  | .dir entries => entriesSize entries

/-- The sizes of entries, added up. -/
def entriesSize : List (String × Node) → Nat
  | [] => 0
  | (_, n) :: es => n.size + entriesSize es

end

mutual

/-- The links below a node whose path is `p`. -/
def linksBelow (p : Path) : Node → List Path
  | .file _ => []
  | .link _ => [p]
  | .dir entries => linksAmong p entries

/-- The links among the entries of a directory and below them. -/
def linksAmong (p : Path) : List (String × Node) → List Path
  | [] => []
  | (name, n) :: es => linksBelow (p.child name) n ++ linksAmong p es

end

end Node

namespace FileTree

/-- A path that is a link is replaced by what it points to. -/
def settle (t : FileTree) (p : Path) : Except OsFault Path :=
  match t.isLink? p with
  | .ok true => t.resolve true p
  | .ok false => .ok p
  | .error fault => .error fault

/-- The outcome at a path that has no size. One with a NUL in it cannot even be asked for. -/
def unmeasured (given p : Path) (fault : OsFault) : Traced Nat :=
  if given.hasNul then Traced.breakDown .outOfRange
  else Traced.diagnose (.packageSize p.text fault)

/-- The size of the file or directory at a path, and the links that were passed over. -/
def sizeAt (t : FileTree) (given : Path) : Traced Nat :=
  match t.settle given with
  | .error fault =>
    if fault.reason = .linkLoop then Traced.breakDown .linkLoop
    else unmeasured given given fault
  | .ok p =>
    match t.find p with
    | .ok n => do
      if n.isDir then
        Traced.notes ((n.linksBelow p).map fun l => "not following symlink " ++ l.text)
      return n.size
    | .error reason => unmeasured given p ⟨reason, p.text⟩

end FileTree

end PinLedger

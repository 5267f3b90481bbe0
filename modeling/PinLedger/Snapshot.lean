/-
# Surroundings in JSON

A snapshot describes the surroundings of a run as a JSON object. Its `tree` gives what stands at
each path: a text file by its text, another file by its `size` or by its octets as `hex`, a link by
its target as `link`, and an empty directory as null. Then come the working directory `cwd`, the
variables `env` and the platform `current`.

Key definitions: `Node.ofJson`, `FileTree.addJson`, `Surroundings.ofJson`.
-/
import PinLedger.Json.Reader
import PinLedger.Surroundings

namespace PinLedger

/-- The octets that pairs of hexadecimal digits stand for. -/
def octetsOfHex : List Char → List UInt8
  | a :: b :: rest =>
    UInt8.ofNat ((Number.digit? a).getD 0 * 16 + (Number.digit? b).getD 0) :: octetsOfHex rest
  | _ => []

/-- What a snapshot says that stands at a path. -/
def Node.ofJson : Json → Node
  | .text s => .file (.octets s.toUTF8.toList)
  | j =>
    match j.get? "size", j.get? "hex", j.get? "link" with
    | some (.int n), _, _ => .file (.zeros n.toNat)
    | _, some (.text digits), _ => .file (.octets (octetsOfHex digits.toList))
    | _, _, some (.text target) => .link target
    | _, _, _ => .dir []

/-- A tree with an empty directory, in which the work is done. -/
def FileTree.emptyAt (root : Path) : FileTree :=
  ⟨Node.update (.dir []) (some (.dir [])) root.names, root.names⟩

/-- Puts what a snapshot gives into a tree, below a directory. -/
def FileTree.addJson (root : Path) (t : FileTree) (j : Json) : FileTree :=
  j.entries.foldl (fun t e => t.put (root.join (Path.ofText e.1)) (Node.ofJson e.2)) t

/-- Works in a directory, if there is one at the path. -/
def FileTree.enter (t : FileTree) (p : Path) : FileTree :=
  match t.locate p with
  | .ok (place, _) => { t with here := place }
  | .error _ => t

/-- Sets variables, or unsets those that are null. -/
def setSettings (settings : List (String × String)) (j : Json) : List (String × String) :=
  j.entries.foldl (fun vs e =>
    let others := vs.filter (·.1 != e.1)
    match e.2 with
    | .text s => (e.1, s) :: others
    | _ => others) settings

/-- The tree of a snapshot whose paths start at a directory. -/
def FileTree.ofJson (root : Path) (j : Json) : FileTree :=
  let t := (FileTree.emptyAt root).addJson root (j.field "tree")
  match j.field "cwd" with
  | .text dir => t.enter (root.join (Path.ofText dir))
  | _ => t

/-- The surroundings of a snapshot whose paths start at a directory. Variables that it does not
mention are as given. -/
def Surroundings.ofJson (root : Path) (settings : List (String × String)) (j : Json) :
    Surroundings :=
  ⟨FileTree.ofJson root j, setSettings settings (j.field "env"),
    (j.field "current").text?.getD "linux-64"⟩

end PinLedger

/-
# Paths without links

Every name of a path that is a link is replaced by what the link points to, until no link is left.
A link that is met while it is being replaced leads back to itself. A strict resolution wants every
name to exist; a lenient one leaves what it cannot find as it stands.

Key definitions: `FileTree.resolveNames`, `FileTree.resolve`.
-/
import PinLedger.Files.Tree

namespace PinLedger.FileTree

/-- One step up, on the text of the path alone. -/
def stepUp (p : Path) : Path :=
  match p.names.getLast? with
  | none => if p.isAbsolute then p else ⟨.here, [".."]⟩
  | some last =>
    if last = ".." then ⟨p.anchor, p.names ++ [".."]⟩ else ⟨p.anchor, p.names.dropLast⟩

/-- What asking for a link that leads back to itself fails with. This need not be the loop, as the
way through the link may go up from a file. -/
def loopReason (t : FileTree) (p : Path) : OsReason :=
  match t.find p with
  | .error reason => reason
  | .ok _ => .linkLoop

/-- Follows `names` from `p`, which holds no links. `depth` bounds how deep links may nest, and
`pending` holds the links that are being replaced. The flag tells whether the way was followed to
its end. -/
def resolveNames (t : FileTree) (strict : Bool) (depth : Nat) (pending : List Path) (p : Path)
    (names : List String) : Except OsFault (Path × Bool) :=
  match names with
  | [] => .ok (p, true)
  | name :: rest =>
    if name = "" ∨ name = "." then resolveNames t strict depth pending p rest
    else if name = ".." then resolveNames t strict depth pending (stepUp p) rest
    else
      let next := p.child name
      match t.findLink next with
      | .error reason =>
        if strict then .error ⟨reason, next.text⟩
        else resolveNames t strict depth pending next rest
      | .ok (.link target) =>
        match depth with
        | 0 => looped next rest
        | less + 1 =>
          if pending.contains next then looped next rest
          else
            let base := if target.startsWith "/" then ⟨.top, []⟩ else p
            match resolveNames t strict less (next :: pending) base (Text.split '/' target) with
            | .error fault => .error fault
            | .ok (q, false) => .ok (q.join (Path.ofText ("/".intercalate rest)), false)
            | .ok (q, true) => resolveNames t strict (less + 1) pending q rest
      | .ok _ => resolveNames t strict depth pending next rest
termination_by (depth, names.length)
where
  /-- The outcome at a link that leads back to itself. -/
  looped (next : Path) (rest : List String) : Except OsFault (Path × Bool) :=
    if strict then .error ⟨t.loopReason next, next.text⟩
    else .ok (next.join (Path.ofText ("/".intercalate rest)), false)

mutual

/-- The number of links below a node. -/
def countLinks : Node → Nat
  | .file _ => 0
  | .link _ => 1
  | .dir entries => countEntryLinks entries

/-- The number of links below the entries of a directory. -/
def countEntryLinks : List (String × Node) → Nat
  | [] => 0
  | (_, n) :: es => countLinks n + countEntryLinks es

end

/-- Removes `..` together with the name before it. -/
def collapse (names : List String) : List String :=
  (names.foldl (fun acc name => if name = ".." then acc.drop 1 else name :: acc) []).reverse

/-- The path from the top, without links and without `..`. -/
def resolve (t : FileTree) (strict : Bool) (p : Path) : Except OsFault Path :=
  let base : Path := if p.isAbsolute then ⟨.top, []⟩ else ⟨.here, []⟩
  match resolveNames t strict (2 * countLinks t.top + 1) [] base p.names with
  | .error fault => .error fault
  | .ok (q, _) =>
    .ok ⟨.top, collapse (if q.isAbsolute then q.names else t.here ++ q.names)⟩

end PinLedger.FileTree

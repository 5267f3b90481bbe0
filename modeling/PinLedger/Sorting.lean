/-
# Sorting and filtering packages

Packages are sorted by size, name or kind. Where that leaves a tie, name and then kind decide, and
after that the order given. A package of unknown size sorts as if it were empty.

Key definitions: `SortKey`, `SortKey.le`, `sortPackages`, `filterPackages`.
-/
import PinLedger.Package

namespace PinLedger

/-- What packages are sorted by. -/
inductive SortKey where
  | size
  | name
  | kind
deriving DecidableEq, Repr, Inhabited

/-- Reads the word for a sort key. -/
def SortKey.ofWord? : String → Option SortKey
  | "size" => some .size
  | "name" => some .name
  | "kind" => some .kind
  | _ => none

/-- The size that a package sorts by. -/
def Package.sortSize (p : Package) : Int := p.size.getD 0

/-- The order of names: by code point. -/
def compareNames (p q : Package) : Ordering := compare p.name q.name

/-- The order of kinds. -/
def compareKinds (p q : Package) : Ordering := compare p.kind.rank q.kind.rank

/-- The order of sizes. -/
def compareSizes (p q : Package) : Ordering := compare p.sortSize q.sortSize

/-- The order of packages by a key. -/
def SortKey.compare (k : SortKey) (p q : Package) : Ordering :=
  match k with
  | .size => (compareSizes p q).then ((compareNames p q).then (compareKinds p q))
  | .name => (compareNames p q).then (compareKinds p q)
  | .kind => (compareKinds p q).then (compareNames p q)

/-- May `p` stand before `q`? -/
def SortKey.le (k : SortKey) (p q : Package) : Bool := (k.compare p q).isLE

/-- Packages in the order of a key; ties stay as they are. -/
def sortPackages (k : SortKey) (ps : List Package) : List Package := ps.mergeSort k.le

/-- The packages whose name satisfies a pattern, and of these only the explicit ones if asked. -/
def filterPackages (pattern : Option (String → Bool)) (explicitOnly : Bool) (ps : List Package) :
    List Package :=
  let ps := match pattern with
    | some matchesName => ps.filter fun p => matchesName p.name
    | none => ps
  if explicitOnly then ps.filter (·.isExplicit) else ps

end PinLedger

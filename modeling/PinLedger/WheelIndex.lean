/-
# The index of cached wheels

A wheel cache has a directory for each package, named by the canonical name, with an entry for each
wheel: the wheel file, or a directory with its content. The directory of a name is read when the
name is first asked for; what was found then is remembered.

Key definitions: `Wheel`, `WheelIndex`, `WheelIndex.itemOf`, `WheelIndex.scan`, `WheelIndex.get`,
`WheelIndex.find`.
-/
import PinLedger.Trail
import PinLedger.WheelName

namespace PinLedger

/-- A cached wheel. -/
structure Wheel where
  name : String
  version : Version
  fileName : String
  path : Path
deriving DecidableEq, Repr, Inhabited

/-- A wheel cache and what is remembered of it, by canonical name. -/
structure WheelIndex where
  cache : Path
  known : List (String × List Wheel)
deriving DecidableEq, Repr, Inhabited

namespace WheelIndex

/-- An index that remembers nothing. -/
def ofCache (cache : Path) : WheelIndex := ⟨cache, []⟩

/-- What an entry of a package's directory turns out to be. -/
inductive Item where
  | wheel (w : Wheel)
  | noWheel
  | otherPackage
deriving DecidableEq, Repr

/-- What an entry is that is named like the wheel with a file name. -/
def Item.ofFileName (name : String) (path : Path) (fileName : String) : Item :=
  match WheelName.parse? fileName with
  | none => .noWheel
  | some w => if w.name = name then .wheel ⟨name, w.version, fileName, path⟩ else .otherPackage

/-- Looks at an entry. A directory, also one behind a link, is named like a wheel without its
ending. -/
def itemOf (t : FileTree) (name : String) (path : Path) : Except OsFault Item := do
  if WheelName.hasEnding path.name then
    return Item.ofFileName name path path.name
  if ← t.isDir? path then
    return Item.ofFileName name path (path.name ++ WheelName.ending)
  return .noWheel

/-- The entries of a directory in the order of their names. -/
def sortedEntries (entries : List (String × Node)) : List String :=
  (entries.map (·.1)).mergeSort fun a b => decide (a ≤ b)

/-- The note about an entry that is passed over. -/
def Item.note? (name : String) (path : Path) : Item → Option String
  | .wheel _ => none
  | .noWheel => some ("skipping " ++ path.text ++ ", not a wheel")
  | .otherPackage => some ("skipping " ++ path.text ++ ", it is not a wheel of " ++ name)

/-- The wheel, if the entry is one. -/
def Item.wheel? : Item → Option Wheel
  | .wheel w => some w
  | _ => none

/-- The wheels among the entries of the directory of a canonical name. -/
def wheelsAmong (t : FileTree) (name : String) : List Path → Traced (List Wheel)
  | [] => return []
  | path :: rest => do
    let item ← Traced.ofAnswer (itemOf t name path)
    Traced.notes (item.note? name path).toList
    return item.wheel?.toList ++ (← wheelsAmong t name rest)

/-- Reads the directory of a canonical name. -/
def scan (t : FileTree) (cache : Path) (name : String) : Traced (List Wheel) := do
  let dir := cache.join (Path.ofText name)
  if !(← Traced.ofAnswer (t.isDir? dir)) then
    return []
  let entries ← Traced.ofAnswer (t.entries dir)
  let wheels ← wheelsAmong t name ((sortedEntries entries).map dir.child)
  Traced.notes ["found " ++ toString wheels.length ++ " cached wheels for " ++ name]
  return wheels

/-- The cached wheels of a package, and the index that remembers them. -/
def get (t : FileTree) (ix : WheelIndex) (name : String) : Traced (List Wheel × WheelIndex) := do
  let name := Name.pypi name
  match ix.known.lookup name with
  | some wheels => return (wheels, ix)
  | none =>
    let wheels ← scan t ix.cache name
    return (wheels, { ix with known := ix.known ++ [(name, wheels)] })

/-- The first cached wheel of a package with a version. A version with a numeral that is too long is
not looked for. -/
def find (t : FileTree) (ix : WheelIndex) (name version : String) :
    Traced (Option Wheel × WheelIndex) := do
  match Version.parse? version with
  | none => Traced.diagnose (.packageVersion name version)
  | some wanted =>
    if Version.hasLongNumeral version then
      Traced.breakDown .outOfRange
    let (wheels, ix) ← get t ix name
    return (wheels.find? fun w => w.version.same wanted, ix)

end WheelIndex

end PinLedger

/-
# Packages

A locked package in the shape that is the same for both ecosystems: its canonical name, its
version, where it comes from, and its size where that can be known. A pypi package from an index is
sized by its cached wheel, any other pypi package by what its path leads to.

Key definitions: `Package`, `Package.ofRecord`, `Package.toJson`, `Package.check`, `packagesJson`.
-/
import PinLedger.Files.Size
import PinLedger.Json.Basic
import PinLedger.Record
import PinLedger.WheelIndex

namespace PinLedger

open Document

/-- A locked package. -/
structure Package where
  name : String
  version : String
  build : Option String
  size : Option Int
  kind : Kind
  source : Option String
  isExplicit : Bool
  isEditable : Bool
deriving DecidableEq, Repr, Inhabited

namespace Package

/-- A short text about a package. -/
def text (p : Package) : String := p.kind.word ++ ": " ++ p.name ++ " - " ++ p.version

/-- What is known about where a package comes from. -/
structure Origin where
  size : Option Int
  source : Option String
deriving DecidableEq, Repr, Inhabited

/-- The origin of a pypi package by its location. A relative path starts at `root`. -/
def originOfLocation (t : FileTree) (root : Option Path) (location : Location) : Traced Origin :=
  match location with
  | .url url => return ⟨none, some url⟩
  | .path text => do
    let path := Path.ofText text
    let path := match root with
      | some r => r.join path
      | none => path
    return ⟨some (← t.sizeAt path), some text⟩

/-- The origin of a pypi package by its cached wheel. -/
def originOfWheel (t : FileTree) (ix : WheelIndex) (name version : String) :
    Traced (Origin × WheelIndex) := do
  match ← ix.find t name version with
  | (none, ix) => return (⟨none, none⟩, ix)
  | (some w, ix) => return (⟨some (← t.sizeAt w.path), some w.fileName⟩, ix)

/-- The origin of a pypi package. Only a package with a hash comes from an index. -/
def originOfPypi (t : FileTree) (index : Option WheelIndex) (root : Option Path) (name : String)
    (r : PypiRecord) : Traced (Origin × Option WheelIndex) :=
  match r.hash, index with
  | some _, some ix => do
    let (origin, ix) ← originOfWheel t ix name r.version
    return (origin, some ix)
  | _, _ => return (← originOfLocation t root r.location, index)

/-- The package of a record, explicit if its canonical name is among `explicit`. The index comes
back with what it has learnt. -/
def ofRecord (t : FileTree) (explicit : List String) (root : Option Path)
    (index : Option WheelIndex) (record : Record) : Traced (Package × Option WheelIndex) := do
  let name := record.normalizedName
  let isExplicit := explicit.contains name
  match record with
  | .archive r =>
    return (⟨name, r.version, some r.build, r.size, .conda, r.channel, isExplicit, false⟩, index)
  | .source r =>
    return (⟨name, r.version, some r.build, none, .conda, some r.location, isExplicit, false⟩,
      index)
  | .pypi r =>
    let (origin, index) ← originOfPypi t index root name r
    return (⟨name, r.version, none, origin.size, .pypi, origin.source, isExplicit, r.editable⟩,
      index)

/-- The packages of some records, in order. -/
def ofRecords (t : FileTree) (explicit : List String) (root : Option Path) :
    Option WheelIndex → List Record → Traced (List Package)
  | _, [] => return []
  | index, record :: rest => do
    let (package, index) ← ofRecord t explicit root index record
    return package :: (← ofRecords t explicit root index rest)

/-- A text or null in JSON. -/
def jsonText : Option String → Json
  | some s => .text s
  | none => .null

/-- The JSON form of a package; whether it is editable is said only if it is. -/
def toJson (p : Package) : Json :=
  .object ([("name", .text p.name), ("version", .text p.version), ("build", jsonText p.build),
    ("size_bytes", match p.size with
      | some n => .int n
      | none => .null),
    ("kind", .text p.kind.word), ("source", jsonText p.source),
    ("is_explicit", .bool p.isExplicit)]
    ++ if p.isEditable then [("is_editable", .bool true)] else [])

/-- Reads the word for a kind. -/
def asKind : Value → Checked Kind
  | .text s =>
    match Kind.ofWord? s with
    | some k => .ok k
    | none => Checked.fault .choice
  | _ => Checked.fault .choice

/-- Reads a package from its fields; unknown fields do not matter. -/
def check (v : Value) : Checked Package :=
  match v.asRecord with
  | .ok f =>
    .apply (.apply (.apply (.apply (.apply (.apply (.apply (.apply (.ok Package.mk)
      (f.required "name" Value.asText))
      (f.required "version" Value.asText))
      (f.optional "build" none optionalText))
      (f.optional "size_bytes" none (Value.asOptional Value.asInt)))
      (f.required "kind" asKind))
      (f.optional "source" none optionalText))
      (f.optional "is_explicit" false Value.asBool))
      (f.optional "is_editable" false Value.asBool)
  | .error faults => .error faults

end Package

/-- Has a package a size with too many digits to be written out? -/
def Package.hasLongSize (p : Package) : Bool := p.size.any Number.isTooLong

/-- The JSON text of a list of packages. -/
def packagesJson (pretty : Bool) (ps : List Package) : Except Failure String :=
  if ps.any Package.hasLongSize then .error (.breakdown .outOfRange)
  else .ok (Json.write (if pretty then .indented else .compact) (.list (ps.map Package.toJson)))

end PinLedger

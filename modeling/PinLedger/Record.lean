/-
# Locked records

What a lock file says about one package. There are three kinds of record: a conda package built as
an archive, a conda package that is built from its source, and a pypi package.

Key definitions: `ArchiveRecord`, `SourceRecord`, `PypiRecord`, `Record`, `Record.kind`,
`Record.normalizedName`.
-/
import PinLedger.Location
import PinLedger.Name

namespace PinLedger

open Document

/-- A conda package as an archive. -/
structure ArchiveRecord where
  name : String
  version : String
  build : String
  buildNumber : Int
  subdir : Option String
  url : String
  /-- The size of the archive in octets. -/
  size : Option Int
  channel : Option String
  sha256 : Option String
  md5 : Option String
  depends : List String
deriving DecidableEq, Repr, Inhabited

/-- A conda package that is built from its source. -/
structure SourceRecord where
  name : String
  version : String
  build : String
  subdir : Option String
  location : String
  depends : List String
deriving DecidableEq, Repr, Inhabited

/-- A pypi package. -/
structure PypiRecord where
  name : String
  version : String
  /-- Packages from an index have one, packages from elsewhere have none. -/
  hash : Option String
  editable : Bool
  location : Location
  requires : List String
deriving DecidableEq, Repr, Inhabited

/-- A locked record. -/
inductive Record where
  | archive (r : ArchiveRecord)
  | source (r : SourceRecord)
  | pypi (r : PypiRecord)
deriving DecidableEq, Repr, Inhabited

/-- A text or null. -/
def optionalText : Value → Checked (Option String) := Value.asOptional Value.asText

/-- A list of texts. -/
def textList : Value → Checked (List String) := Value.asListOf Value.asText

/-- Reads the fields of an archive record. -/
def ArchiveRecord.check (f : Fields) : Checked ArchiveRecord :=
  .apply (.apply (.apply (.apply (.apply (.apply (.apply (.apply (.apply (.apply (.apply
    (.ok ArchiveRecord.mk)
    (f.required "name" Value.asText))
    (f.required "version" Value.asText))
    (f.required "build" Value.asText))
    (f.optional "build_number" 0 Value.asInt))
    (f.optional "subdir" none optionalText))
    (f.required "url" Value.asText))
    (f.optional "size" none (Value.asOptional Value.asInt)))
    (f.optional "channel" none optionalText))
    (f.optional "sha256" none optionalText))
    (f.optional "md5" none optionalText))
    (f.optional "depends" [] textList)

/-- Reads the fields of a source record. -/
def SourceRecord.check (f : Fields) : Checked SourceRecord :=
  .apply (.apply (.apply (.apply (.apply (.apply
    (.ok SourceRecord.mk)
    (f.required "name" Value.asText))
    (f.required "version" Value.asText))
    (f.required "build" Value.asText))
    (f.optional "subdir" none optionalText))
    (f.required "location" Value.asText))
    (f.optional "depends" [] textList)

/-- Reads the fields of a pypi record, with the given way to read its location. -/
def PypiRecord.check (f : Fields) (location : Value → Checked Location) : Checked PypiRecord :=
  .apply (.apply (.apply (.apply (.apply (.apply
    (.ok PypiRecord.mk)
    (f.required "name" Value.asText))
    (f.required "version" Value.asText))
    (f.optional "hash" none optionalText))
    (f.optional "editable" false Value.asBool))
    (f.required "location" location))
    (f.optional "requires_dist" [] textList)

/-- Reads a location: a text is told apart into url and path, a table gives its fields. -/
def Location.ofValue : Value → Checked Location
  | .text s => .ok (Location.ofText s)
  | v =>
    match v.asRecord with
    | .ok f => Location.check f
    | .error faults => .error faults

namespace Record

/-- The ecosystem of a record. -/
def kind : Record → Kind
  | .archive _ => .conda
  | .source _ => .conda
  | .pypi _ => .pypi

/-- The name as it is locked. -/
def name : Record → String
  | .archive r => r.name
  | .source r => r.name
  | .pypi r => r.name

/-- The version as it is locked. -/
def version : Record → String
  | .archive r => r.version
  | .source r => r.version
  | .pypi r => r.version

/-- The name in the canonical form of its ecosystem. -/
def normalizedName (r : Record) : String := r.kind.canonical r.name

/-- A short text about a record. -/
def text (r : Record) : String :=
  let label := match r with
    | .archive _ => "conda"
    | .source _ => "conda (source)"
    | .pypi _ => "pypi"
  label ++ ": " ++ r.name ++ " - " ++ r.version

/-- Is it a pypi record? -/
def isPypi (r : Record) : Bool := r.kind == .pypi

end Record

end PinLedger

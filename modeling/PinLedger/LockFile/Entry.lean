/-
# Entries of a lock file

An entry of the package table is known by its kind and location. Both are given together, as
`conda: <location>` or `pypi: <location>`, or apart, as `kind` with `url` or `path`. An entry is
read as a record by the rules of its kind; a conda entry may leave out what the file name of its
archive says. What a key, a version or a build shows may be any value that is written.

Key definitions: `Entry.Key`, `Entry.key`, `Entry.isKeyed`, `Entry.toRecord`.
-/
import PinLedger.Archive
import PinLedger.Failure
import PinLedger.Record

namespace PinLedger.Entry

open Document

/-- What an entry is known by, and what a reference to it gives. -/
structure Key where
  kind : String
  location : String
deriving DecidableEq, Repr, Inhabited

/-- The value of a field, null if it is missing. -/
def valueOf (entry : Fields) (name : String) : Value := (entry.get? name).getD .null

/-- The first value if it counts as true, else the second. -/
def orElse (a b : Value) : Value := if a.truthy then a else b

/-- The values that the key of an entry or reference shows: a kind and a location. -/
def keyValues (entry : Fields) : Value × Value :=
  match entry.get? "conda", entry.get? "pypi" with
  | some v, _ => (.text "conda", v)
  | none, some v => (.text "pypi", v)
  | none, none => (valueOf entry "kind", orElse (valueOf entry "url") (valueOf entry "path"))

/-- The key of an entry or reference, where it is written. -/
def key (entry : Fields) : Key := ⟨(keyValues entry).1.display, (keyValues entry).2.display⟩

/-- Is the key of an entry or reference written? -/
def isKeyed (entry : Fields) : Bool :=
  (keyValues entry).1.isWritten && (keyValues entry).2.isWritten

/-- A field that every entry of its kind has. -/
def needed (entry : Fields) (name : String) : Except EntryFault Value :=
  match entry.get? name with
  | some v => .ok v
  | none => .error (.fieldMissing name)

/-- The hash of a pypi entry; it may stand in a table `hash` of its own. -/
def hash (entry : Fields) : Except EntryFault Value :=
  let nested := valueOf entry "hash"
  if nested.truthy then
    match nested with
    | .table _ => .ok (orElse ((nested.get? "sha256").getD .null) ((nested.get? "md5").getD .null))
    | _ => .error .hashExpected
  else .ok (orElse (valueOf entry "sha256") (valueOf entry "md5"))

/-- A list that may be left out or be null. -/
def listOf (entry : Fields) (name : String) : Value := orElse (valueOf entry name) (.list [])

/-- The text of a value that an entry gives. -/
def shown (v : Value) : Except EntryFault Value :=
  if v.isWritten then .ok (.text v.display) else .error .numeralTooLong

@[simp] theorem shown_text (s : String) : shown (.text s) = .ok (.text s) := by
  simp [shown, Value.display]

/-- A reading of fields as a reading of an entry. -/
def ofChecked {α : Type} : Checked α → Except EntryFault α
  | .ok a => .ok a
  | .error faults => .error (.fields faults)

/-- Reads a pypi entry. -/
def toPypi (location : String) (entry : Fields) : Except EntryFault Record := do
  let name ← needed entry "name"
  let version ← shown (← needed entry "version")
  let hash ← hash entry
  let fields : Fields := [("name", name), ("version", version), ("hash", hash),
    ("editable", .bool (valueOf entry "editable").truthy), ("location", .text location),
    ("requires_dist", listOf entry "requires_dist")]
  Record.pypi <$> ofChecked (PypiRecord.check fields Location.ofValue)

/-- Reads an entry of a conda package that is built from its source. -/
def toSource (location : String) (entry : Fields) : Except EntryFault Record := do
  let name ← needed entry "name"
  let version ← shown (← needed entry "version")
  let build ← shown ((entry.get? "build").getD (.text ""))
  let fields : Fields := [("name", name), ("version", version), ("build", build),
    ("subdir", valueOf entry "subdir"), ("location", .text location),
    ("depends", listOf entry "depends")]
  Record.source <$> ofChecked (SourceRecord.check fields)

/-- A text or null as a value. -/
def ofText? : Option String → Value
  | some s => .text s
  | none => .null

/-- Reads an entry of a conda archive; the location says what the entry leaves out. -/
def toArchive (location : String) (entry : Fields) : Except EntryFault Record := do
  let parts ← (Archive.split? location).mapError EntryFault.archiveName
  let given (name default : String) : Value := (entry.get? name).getD (.text default)
  let version ← shown (given "version" parts.version)
  let build ← shown (given "build" parts.build)
  let fields : Fields := [("name", given "name" parts.name), ("version", version), ("build", build),
    ("build_number", (entry.get? "build_number").getD (.int 0)),
    ("subdir", orElse (valueOf entry "subdir") (ofText? (Archive.subdir? location))),
    ("url", .text location), ("size", valueOf entry "size"),
    ("channel", orElse (valueOf entry "channel") (ofText? (Archive.channel? location))),
    ("sha256", valueOf entry "sha256"), ("md5", valueOf entry "md5"),
    ("depends", listOf entry "depends")]
  Record.archive <$> ofChecked (ArchiveRecord.check fields)

/-- Reads an entry under its key. -/
def toRecord (k : Key) (entry : Fields) : Except EntryFault Record :=
  if k.kind = "pypi" then toPypi k.location entry
  else if k.kind ≠ "conda" then .error (.kindUnknown k.kind)
  else if Archive.hasExtension k.location then toArchive k.location entry
  else toSource k.location entry

end PinLedger.Entry

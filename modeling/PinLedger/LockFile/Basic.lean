/-
# Lock files

A lock file is a lock document whose package table has been read. Of several entries with one key
the first counts, and the others are not read. A reference stands for the entry with its key. An
entry or a reference whose key is not written breaks the reading.

Key definitions: `LockFile`, `LockFile.tableOf`, `LockFile.ofDocument`, `LockFile.environmentNames`,
`LockFile.platforms`, `LockFile.packages`.
-/
import PinLedger.LockFile.Document
import PinLedger.LockFile.Entry
import PinLedger.Trail

namespace PinLedger

open Document

/-- A lock document and the records of its package table. -/
structure LockFile where
  path : Path
  document : LockDocument
  table : List (Entry.Key × Record)
deriving Inhabited

namespace LockFile

/-- What reading a package table gives: the keys that came again before reading stopped, and the
records or the first entry that cannot be read. -/
structure TableOutcome where
  repeated : List Entry.Key
  records : Except (Entry.Key × EntryFault) (List (Entry.Key × Record))

/-- Reads the entries whose keys are new; `seen` holds the keys before them. -/
def tableOf (seen : List Entry.Key) : List Fields → TableOutcome
  | [] => ⟨[], .ok []⟩
  | entry :: rest =>
    let key := Entry.key entry
    if !Entry.isKeyed entry then ⟨[], .error (key, .keyUnwritten)⟩
    else if key ∈ seen then
      let more := tableOf seen rest
      { more with repeated := key :: more.repeated }
    else
      match Entry.toRecord key entry with
      | .error fault => ⟨[], .error (key, fault)⟩
      | .ok record =>
        let more := tableOf (key :: seen) rest
        { more with records := more.records.map ((key, record) :: ·) }

/-- The failure that an unreadable entry ends in. -/
def entryFailure (path : Path) (key : Entry.Key) : EntryFault → Failure
  | .hashExpected => .breakdown .noSuchPart
  | .keyUnwritten => .breakdown .outOfRange
  | fault => .diagnosed (.lockInvalid path.text (.entry key.location fault))

/-- Reads the package table of a lock document. -/
def ofDocument (path : Path) (document : LockDocument) : Traced LockFile := do
  let outcome := tableOf [] document.packages
  Traced.notes (outcome.repeated.map fun k =>
    "duplicate lock entry for " ++ k.kind ++ " " ++ k.location)
  match outcome.records with
  | .ok table => return ⟨path, document, table⟩
  | .error (key, fault) => throw (entryFailure path key fault)

/-- The names of the environments, in order. -/
def environmentNames (f : LockFile) : List String := f.document.environments.map (·.1)

/-- The references of an environment by platform, none for an unknown environment. -/
def references (f : LockFile) (environment : String) : PlatformReferences :=
  (f.document.environments.lookup environment).getD []

/-- The platforms that an environment is locked for, in order. -/
def platforms (f : LockFile) (environment : String) : List String :=
  (f.references environment).map (·.1)

/-- The record that a reference stands for. -/
def recordOf (f : LockFile) (environment : String) (reference : Fields) :
    Except Failure Record :=
  let key := Entry.key reference
  if !Entry.isKeyed reference then .error (.breakdown .outOfRange)
  else
    match f.table.lookup key with
    | some record => .ok record
    | none =>
      .error (.diagnosed (.lockInvalid f.path.text
        (.reference environment key.kind key.location)))

/-- The records that an environment locks for a platform, in order. -/
def packages (f : LockFile) (environment platform : String) : Except Failure (List Record) :=
  (((f.references environment).lookup platform).getD []).mapM (f.recordOf environment)

/-- The directory that paths in a lock file are relative to. -/
def root (f : LockFile) : Path := f.path.parent

end LockFile

end PinLedger

/-
# What can go wrong

A run ends early for one of three reasons: a diagnosis, which names what the user can mend and is
reported with a message; a list of faults of values read one by one; or a breakdown, where data has
a shape that no rule provides for.

Key definitions: `Diagnosis`, `Diagnosis.message`, `Breakdown`, `Failure`.
-/
import PinLedger.Document.Checked
import PinLedger.Files.Tree

namespace PinLedger

open Document

/-- Why an entry of a lock file cannot be read. -/
inductive EntryFault where
  /-- A field that every entry of its kind has is missing. -/
  | fieldMissing (name : String)
  /-- The entry is neither conda nor pypi. -/
  | kindUnknown (kind : String)
  /-- The file name of an archive has too few parts. -/
  | archiveName (stem : String)
  /-- The hashes are not in a table. Whoever reads the entry breaks down on it. -/
  | hashExpected
  /-- The key has a number that is too long to be written. Whoever reads the entry breaks down on
  it. -/
  | keyUnwritten
  /-- The version or the build has a number that is too long to be written. -/
  | numeralTooLong
  /-- Fields have values of the wrong type. -/
  | fields (faults : List Fault)
deriving DecidableEq, Repr

/-- Why a lock file cannot be used. -/
inductive LockFault where
  /-- It is no document. -/
  | unreadable
  /-- The document has the wrong shape. -/
  | shape (faults : List Fault)
  /-- An entry of the package table cannot be read. -/
  | entry (location : String) (fault : EntryFault)
  /-- An environment refers to a package that the table lacks. -/
  | reference (environment kind location : String)
deriving DecidableEq, Repr

/-- An error that is reported to the user. -/
inductive Diagnosis where
  | noPackages (environment platform : String)
  | packageSize (path : String) (fault : OsFault)
  | packageVersion (name version : String)
  | usageConflict
  | lockMissing (path : String)
  | lockInvalid (path : String) (fault : LockFault)
  | lockOutdated (environment platform : String) (missing : List String)
  | manifestMissing (directory : String)
  | environmentUnknown (name : String) (available : List String)
  | regexInvalid (regex : String)
deriving DecidableEq, Repr

/-- What stands for the text of a fault whose wording is left to the reader that found it. -/
def foreignText : String := "<cause>"

/-- What is said of a number that is too long to be written. -/
def numeralTooLongText : String :=
  "Exceeds the limit (4300 digits) for integer string conversion; use sys.set_int_max_str_digits() "
    ++ "to increase the limit"

/-- The text of an entry's fault. -/
def EntryFault.message : EntryFault → String
  | .fieldMissing name => Text.quoted name
  | .kindUnknown kind => "unknown package kind '" ++ kind ++ "'"
  | .archiveName stem => "can't read name, version and build from '" ++ stem ++ "'"
  | .hashExpected => foreignText
  | .keyUnwritten => numeralTooLongText
  | .numeralTooLong => numeralTooLongText
  | .fields _ => foreignText

/-- The text of a lock file's fault. -/
def LockFault.message : LockFault → String
  | .unreadable => foreignText
  | .shape _ => foreignText
  | .entry location fault => "bad package entry " ++ location ++ ": " ++ fault.message
  | .reference environment kind location =>
    "environment '" ++ environment ++ "' references unknown " ++ kind ++ " package " ++ location

/-- The message of a diagnosis. -/
def Diagnosis.message : Diagnosis → String
  | .noPackages environment platform =>
    "No packages found in '" ++ environment ++ "' environment for '" ++ platform ++ "' platform."
  | .packageSize path fault =>
    "Failed to compute the size of `" ++ path ++ "`\nError message: " ++ fault.text
  | .packageVersion name version =>
    "invalid version '" ++ version ++ "' for package '" ++ name ++ "': Invalid version: "
      ++ Text.quoted version
  | .usageConflict => "the argument '--locked' cannot be used together with '--frozen'"
  | .lockMissing path => "lock file `" ++ path ++ "` does not exist"
  | .lockInvalid path fault =>
    "Failed to read lock file `" ++ path ++ "`\nError message: " ++ fault.message
  | .lockOutdated environment platform missing =>
    "lock file is not up-to-date with the manifest: environment '" ++ environment ++ "' for '"
      ++ platform ++ "' does not lock " ++ ", ".intercalate missing
  | .manifestMissing directory =>
    "could not find pixi.toml or pyproject.toml with [tool.pixi] at or above `" ++ directory ++ "`"
  | .environmentUnknown name available =>
    "unknown environment '" ++ name ++ "', available environments: "
      ++ ", ".intercalate available
  | .regexInvalid regex => "invalid regex '" ++ regex ++ "': " ++ foreignText

/-- A way to fail that is not reported as a diagnosis. -/
inductive Breakdown where
  /-- A value is asked for a part or an action that values of its type do not have. -/
  | noSuchPart
  /-- A value is of a type that a step cannot work with. -/
  | wrongType
  /-- A table lacks a name it is taken to have. -/
  | noSuchKey
  /-- A value of the right type is out of the range of a step. -/
  | outOfRange
  /-- A text is too short for a step. -/
  | tooShort
  /-- A number is too large. -/
  | tooLarge
  /-- A manifest is not well-formed. -/
  | manifestSyntax
  /-- A file is not a text in UTF-8. -/
  | encoding
  /-- A file cannot be read. -/
  | file (reason : OsReason)
  /-- Links lead back to themselves. -/
  | linkLoop
  /-- The home directory of a user is not known. -/
  | homeUnknown
  /-- A cell of a table has broken markup. -/
  | markup
  /-- A style has no meaning. -/
  | style
  /-- A step asks for a workspace and none is open. -/
  | noWorkspace
deriving DecidableEq, Repr

/-- Why a run ends early. -/
inductive Failure where
  | diagnosed (d : Diagnosis)
  | faults (fs : List Fault)
  | breakdown (b : Breakdown)
deriving DecidableEq, Repr

end PinLedger

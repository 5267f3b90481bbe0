/-
# The shape of a lock document

A lock document has a version, a table of packages, and for every environment and platform a list
of references into that table. Entries and references stay as the document gives them; they are
read one by one later.

Key definitions: `LockDocument`, `LockDocument.check`.
-/
import PinLedger.Document.Checked

namespace PinLedger

open Document

/-- References of an environment, by platform. -/
abbrev PlatformReferences := List (String × List Fields)

/-- A lock document. -/
structure LockDocument where
  version : Int
  environments : List (String × PlatformReferences)
  packages : List Fields
deriving Inhabited

namespace LockDocument

/-- Reads a table of any values. -/
def asFields : Value → Checked Fields := Value.asTableOf Value.asAny

/-- Reads an environment. -/
def asEnvironment (v : Value) : Checked PlatformReferences :=
  match v.asRecord with
  | .ok f => f.optional "packages" [] (Value.asTableOf (Value.asListOf asFields))
  | .error faults => .error faults

/-- Reads a lock document. -/
def check (v : Value) : Checked LockDocument :=
  match v.asRecord with
  | .ok f =>
    .apply (.apply (.apply (.ok LockDocument.mk)
      (f.required "version" Value.asInt))
      (f.optional "environments" [] (Value.asTableOf asEnvironment)))
      (f.optional "packages" [] (Value.asListOf asFields))
  | .error faults => .error faults

end LockDocument

end PinLedger

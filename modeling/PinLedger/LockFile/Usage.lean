/-
# How far a lock file is trusted

A lock file that does not lock everything the manifest declares is out of date. It can be used as
it is, with a warning, or not at all.

Key definitions: `LockUsage`, `LockUsage.ofFlags`.
-/

namespace PinLedger

/-- What to do about a lock file that is out of date. -/
inductive LockUsage where
  /-- Use it without looking. -/
  | frozen
  /-- Refuse it. -/
  | locked
  /-- Use it with a warning. -/
  | update
deriving DecidableEq, Repr, Inhabited

/-- The word for a usage. -/
def LockUsage.word : LockUsage → String
  | .frozen => "frozen"
  | .locked => "locked"
  | .update => "update"

/-- Reads the word for a usage. -/
def LockUsage.ofWord? : String → Option LockUsage
  | "frozen" => some .frozen
  | "locked" => some .locked
  | "update" => some .update
  | _ => none

/-- The usage that two flags ask for, `none` if they contradict each other. -/
def LockUsage.ofFlags (frozen locked : Bool) : Option LockUsage :=
  if frozen && locked then none
  else if frozen then some .frozen
  else if locked then some .locked
  else some .update

end PinLedger

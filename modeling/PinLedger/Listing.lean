/-
# Listing locked packages

A query asks for the packages that an environment locks for a platform. First it is found out what
it is about: a test on names, an environment, a platform, and the records that the lock file locks
for them. Then the lock file is compared with the manifest as the usage says, every package is
sized, and those that the query asks for are kept; it fails if none is left.

Key definitions: `Query`, `Selection`, `missingNames`, `checkLock`, `indexFor`, `Workspace.select`,
`Workspace.list`.
-/
import PinLedger.LockFile.Usage
import PinLedger.Pattern
import PinLedger.Sorting
import PinLedger.Workspace

namespace PinLedger

/-- What to list. -/
structure Query where
  /-- A pattern for names. -/
  pattern : Option String := none
  platform : Option String := none
  environment : Option String := none
  explicitOnly : Bool := false
  /-- Leave the wheel cache alone? -/
  noInstall : Bool := false
  usage : LockUsage := .update
deriving DecidableEq, Repr, Inhabited

/-- What a query is about. -/
structure Selection where
  /-- The test on names, if there is one. -/
  pattern : Option (String → Bool)
  environment : EnvironmentSpec
  platform : String
  lock : LockFile
  /-- What the lock file locks for the environment and platform. -/
  records : List Record
  /-- What the manifest declares for them. -/
  explicit : List String

/-- The explicit names that no record has, in order. -/
def missingNames (explicit : List String) (records : List Record) : List String :=
  let locked := records.map Record.normalizedName
  (explicit.filter fun name => !locked.contains name).mergeSort fun a b => decide (a ≤ b)

/-- Compares a lock file with the manifest. -/
def checkLock (usage : LockUsage) (environment platform : String) (missing : List String) :
    Traced Unit := do
  match usage, missing with
  | .frozen, _ | _, [] => return ()
  | .locked, _ => Traced.diagnose (.lockOutdated environment platform missing)
  | .update, _ =>
    Traced.note .warning ("lock file is out of date, " ++ ", ".intercalate missing
      ++ " not locked for '" ++ environment ++ "' on '" ++ platform
      ++ "'; listing the locked packages")

/-- The index of cached wheels, if it is wanted, there is a pypi record, and there is a cache. -/
def indexFor (s : Surroundings) (noInstall : Bool) (records : List Record) :
    Traced (Option WheelIndex) := do
  if noInstall || !records.any Record.isPypi then
    return none
  let cache ← ofExcept s.wheelCache
  if ← Traced.ofAnswer (s.tree.isDir? cache) then
    return some (WheelIndex.ofCache cache)
  Traced.note .debug ("wheel cache " ++ cache.text ++ " does not exist")
  return none

/-- The packages that a query keeps. -/
def keptPackages (q : Query) (sel : Selection) (ps : List Package) : Traced (List Package) := do
  match filterPackages sel.pattern q.explicitOnly ps with
  | [] => Traced.diagnose (.noPackages sel.environment.name sel.platform)
  | kept => return kept

namespace Selection

/-- The names that are declared and not locked. -/
def missing (sel : Selection) : List String := missingNames sel.explicit sel.records

/-- All packages of a selection. -/
def packages (s : Surroundings) (noInstall : Bool) (sel : Selection) : Traced (List Package) := do
  let index ← indexFor s noInstall sel.records
  Package.ofRecords s.tree sel.explicit (some sel.lock.root) index sel.records

/-- Lists the packages of a selection that a query asks for. -/
def list (s : Surroundings) (q : Query) (sel : Selection) : Traced (List Package) := do
  checkLock q.usage sel.environment.name sel.platform sel.missing
  keptPackages q sel (← sel.packages s q.noInstall)

end Selection

namespace Workspace

/-- The platform that a query is about. -/
def platformOf (s : Surroundings) (q : Query) (e : EnvironmentSpec) : Visit String :=
  match q.platform with
  | some p => pure p
  | none => bestPlatform s e

/-- Finds what a query is about. -/
def select (s : Surroundings) (q : Query) : Visit Selection := do
  let pattern ← ofExcept (compilePattern q.pattern)
  let w ← Visit.workspace
  let e ← ofExcept (w.environmentOf s q.environment)
  let platform ← platformOf s q e
  let f ← lockFile s
  let records ← ofExcept (f.packages e.name platform)
  return ⟨pattern, e, platform, f, records, w.manifest.requestedSpecs e (some platform)⟩

/-- Lists the packages that a query asks for. -/
def list (s : Surroundings) (q : Query) : Visit (List Package) := do
  Visit.ofTraced ((← select s q).list s q)

end Workspace

end PinLedger

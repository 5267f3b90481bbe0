/-
# Running the program

A run lists packages as its arguments ask, and prints them as JSON or as a table. Nothing is
printed unless the listing succeeds. Diagnoses, warnings and the name of the environment go to the
error output. A failure that is no diagnosis ends the program; what was written before stays.

Key definitions: `Sink`, `Consoles`, `Outcome`, `Command.listing`, `Command.run`.
-/
import PinLedger.Command.Console
import PinLedger.Command.Options

namespace PinLedger.Command

/-- Where the output goes. -/
inductive Sink where
  /-- It is written. -/
  | ready
  /-- Nobody reads it any more; the flag tells whether it has a descriptor. -/
  | broken (descriptor : Bool)
  /-- There is no room for it. -/
  | full
deriving DecidableEq, Repr, Inhabited

/-- The consoles of a run, each with the cells that a line has room for. -/
structure Consoles where
  output : Nat
  errors : Nat
deriving DecidableEq, Repr, Inhabited

/-- How a run ends. -/
inductive Ending where
  /-- In order, with an exit code. -/
  | exit (code : Nat)
  /-- With a failure that is no diagnosis. Its account goes to the error output, behind all else. -/
  | broken (failure : Failure)
deriving DecidableEq, Repr

/-- What a run leaves behind: all that it has written when it ends. -/
structure Outcome where
  ending : Ending
  stdout : String
  stderr : List String
  trail : Trail
deriving DecidableEq, Repr

/-- The exit code of a run. -/
def Outcome.exit (out : Outcome) : Nat :=
  match out.ending with
  | .exit code => code
  | .broken _ => 1

/-- The lines of an error. -/
def errorLines (columns : Nat) (message : String) : List String :=
  shownLines columns ("Error: " ++ message)

/-! ### Listing -/

/-- The query that options ask for. -/
def ListOptions.query (o : ListOptions) (environment : String) (usage : LockUsage) : Query :=
  { pattern := o.pattern
    platform := o.platform
    environment := some environment
    explicitOnly := o.explicitOnly
    noInstall := o.noInstall
    usage }

/-- The packages of a listing and the environment that they are of. -/
structure Listing where
  environment : EnvironmentSpec
  packages : List Package

/-- Lists the packages of an open workspace. -/
def visit (s : Surroundings) (o : ListOptions) (usage : LockUsage) : Visit Listing := do
  let e ← ofExcept ((← Visit.workspace).environmentOf s o.environment)
  return ⟨e, ← Workspace.list s (o.query e.name usage)⟩

/-- Lists the packages that options ask for. -/
def listing (s : Surroundings) (o : ListOptions) : Traced Listing := do
  match LockUsage.ofFlags o.frozen o.locked with
  | none => Traced.diagnose .usageConflict
  | some usage =>
    let w ← Workspace.locate s o.manifestPath
    let (result, _, trail) := (visit s o usage).start w
    Traced.leave trail
    ofExcept result

/-! ### Printing -/

/-- Is the output JSON? -/
def ListOptions.isJson (o : ListOptions) : Bool := o.json || o.jsonPretty

/-- The output of a listing on a console. -/
def rendered (columns : Nat) (o : ListOptions) (ps : List Package) : Except Failure String :=
  if o.isJson then (· ++ "\n") <$> packagesJson o.jsonPretty ps
  else (·.text) <$> printTable columns {} ps

/-- The lines that name the environment above a table. -/
def environmentLines (columns : Nat) (o : ListOptions) (e : EnvironmentSpec) : List String :=
  if o.isJson || e.isDefault then [] else shownLines columns ("Environment: " ++ e.name)

/-- The exit code and the error lines of writing. A table that nobody reads ends the program
early, by way of the descriptor. -/
def written (columns : Nat) (o : ListOptions) : Sink → Nat × List String
  | .ready => (0, [])
  | .full => (1, failed "[Errno 28] No space left on device")
  | .broken descriptor =>
    if o.isJson then (0, [])
    else if descriptor then (1, [])
    else (1, failed "fileno")
where
  /-- The lines of a failure to write. -/
  failed (reason : String) : List String :=
    errorLines columns ("failed to write the package list: " ++ reason)

/-- Prints a listing, where `said` is on the error output already. The environment is named before
the table is made. -/
def print (c : Consoles) (sink : Sink) (o : ListOptions) (l : Listing) (said : List String)
    (trail : Trail) : Outcome :=
  let said := said ++ environmentLines c.errors o l.environment
  match rendered c.output o (sortPackages o.sortKey l.packages) with
  | .error e => ⟨.broken e, "", said, trail⟩
  | .ok text =>
    let (code, failure) := written c.errors o sink
    ⟨.exit code, if sink = .ready then text else "", said ++ failure, trail⟩

/-- Runs the command. -/
def runList (s : Surroundings) (c : Consoles) (sink : Sink) (verbose : Bool) (o : ListOptions) :
    Outcome :=
  let r := listing s o
  let said := trailLines c.errors verbose r.trail
  match r.result with
  | .ok l => print c sink o l said r.trail
  | .error (.diagnosed d) => ⟨.exit 1, "", said ++ errorLines c.errors d.message, r.trail⟩
  | .error e => ⟨.broken e, "", said, r.trail⟩

/-- Runs the program. What is wrong with its use, and its help, is for its caller to explain. -/
def run (s : Surroundings) (c : Consoles) (sink : Sink) (arguments : List String) : Outcome :=
  match Invocation.read s arguments with
  | .misused => ⟨.exit 2, "", [], []⟩
  | .help => ⟨.exit 0, "", [], []⟩
  | .list verbose o => runList s c sink verbose o

end PinLedger.Command

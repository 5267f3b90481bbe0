/-
# Workspaces

A workspace is a directory with a manifest, which is read when the workspace is opened. Its lock
file is read when it is needed for the first time, and never again after it was read.

Key definitions: `Workspace`, `Visit`, `Workspace.open`, `Workspace.locate`, `Workspace.lockFile`,
`Workspace.environmentOf`, `Workspace.bestPlatform`.
Key theorems: `Visit.outcome_bind`, `Visit.leaves_bind`.
-/
import PinLedger.LockFile.Reader
import PinLedger.Manifest.File
import PinLedger.Surroundings

namespace PinLedger

/-- An open workspace. -/
structure Workspace where
  root : Path
  file : ManifestFile
  /-- The lock file, once it was read. -/
  lock : Option LockFile
deriving Inhabited

/-- A run in an open workspace. What it notes, and the lock file that it reads, is kept even if it
fails. -/
@[ext]
structure Visit (α : Type) where
  /-- The run and the workspace after it. -/
  run : Workspace → Traced α × Workspace

namespace Visit

variable {α β : Type}

/-- What a visit ends in. -/
def outcome (v : Visit α) (w : Workspace) : Except Failure α := (v.run w).1.result

/-- The workspace after a visit. -/
def leaves (v : Visit α) (w : Workspace) : Workspace := (v.run w).2

/-- Goes on where a run has left a workspace. -/
def resume (trail : Trail) (w : Workspace) (v : Visit α) : Traced α × Workspace :=
  ((v.run w).1.after trail, (v.run w).2)

instance : Monad Visit where
  pure a := ⟨fun w => (pure a, w)⟩
  bind v f := ⟨fun w =>
    match v.run w with
    | (⟨.ok a, trail⟩, w) => (f a).resume trail w
    | (⟨.error e, trail⟩, w) => (⟨.error e, trail⟩, w)⟩

instance : MonadExceptOf Failure Visit where
  throw e := ⟨fun w => (throw e, w)⟩
  tryCatch v f := ⟨fun w =>
    match v.run w with
    | (⟨.ok a, trail⟩, w) => (⟨.ok a, trail⟩, w)
    | (⟨.error e, trail⟩, w) => (f e).resume trail w⟩

/-- What a visit in two parts ends in. -/
theorem outcome_bind (v : Visit α) (f : α → Visit β) (w : Workspace) :
    (v >>= f).outcome w = v.outcome w >>= fun a => (f a).outcome (v.leaves w) := by
  rcases h : v.run w with ⟨⟨a | a, trail⟩, w'⟩
  · simp [outcome, bind, h, Except.bind]
  · simp [outcome, leaves, bind, h, Except.bind, resume, Traced.after]

/-- The workspace after a visit in two parts. -/
theorem leaves_bind (v : Visit α) (f : α → Visit β) (w : Workspace) :
    (v >>= f).leaves w = match v.outcome w with
      | .ok a => (f a).leaves (v.leaves w)
      | .error _ => v.leaves w := by
  rcases h : v.run w with ⟨⟨a | a, trail⟩, w'⟩ <;> simp [outcome, leaves, bind, h, resume]

/-- A run that does without the workspace. -/
def ofTraced (r : Traced α) : Visit α := ⟨fun w => (r, w)⟩

/-- The workspace. -/
def workspace : Visit Workspace := ⟨fun w => (pure w, w)⟩

/-- Keeps the lock file that was read. -/
def keepLock (f : LockFile) : Visit Unit := ⟨fun w => (pure (), { w with lock := some f })⟩

section

variable (w : Workspace)

@[simp] theorem outcome_pure (a : α) : (pure a : Visit α).outcome w = .ok a := rfl

@[simp] theorem leaves_pure (a : α) : (pure a : Visit α).leaves w = w := rfl

@[simp] theorem outcome_ofExcept (x : Except Failure α) :
    (ofExcept x : Visit α).outcome w = x := by
  cases x <;> rfl

@[simp] theorem leaves_ofExcept (x : Except Failure α) : (ofExcept x : Visit α).leaves w = w := by
  cases x <;> rfl

@[simp] theorem outcome_ofTraced (r : Traced α) : (ofTraced r).outcome w = r.result := rfl

@[simp] theorem leaves_ofTraced (r : Traced α) : (ofTraced r).leaves w = w := rfl

@[simp] theorem outcome_workspace : workspace.outcome w = .ok w := rfl

@[simp] theorem leaves_workspace : workspace.leaves w = w := rfl

theorem outcome_workspace_bind (f : Workspace → Visit α) :
    (workspace >>= f).outcome w = (f w).outcome w := rfl

theorem leaves_workspace_bind (f : Workspace → Visit α) :
    (workspace >>= f).leaves w = (f w).leaves w := rfl

@[simp] theorem outcome_keepLock (f : LockFile) : (keepLock f).outcome w = .ok () := rfl

@[simp] theorem leaves_keepLock (f : LockFile) :
    (keepLock f).leaves w = { w with lock := some f } := rfl

end

/-- What a visit ends in, the workspace after it, and what it noted. -/
def start (v : Visit α) (w : Workspace) : Except Failure α × Workspace × Trail :=
  let (r, w) := v.run w
  (r.result, w, r.trail)

end Visit

namespace Workspace

/-- The name of lock files. -/
def lockFileName : String := "pixi.lock"

/-- The path of the lock file. -/
def lockPath (w : Workspace) : Path := w.root.child lockFileName

/-- The manifest. -/
def manifest (w : Workspace) : Manifest := w.file.manifest

/-- Opens the workspace of a directory. -/
def «open» (s : Surroundings) (root : Path) : Traced Workspace := do
  let file ← ManifestFile.open s.tree root
  Traced.note .debug ("using workspace manifest " ++ file.path)
  return ⟨root, file, none⟩

/-- Opens the workspace that a path belongs to: a file belongs to the workspace of its directory,
and any other path to the nearest one at or above it. Without a path the working directory is
taken. -/
def locate (s : Surroundings) (start : Option Path) : Traced Workspace := do
  let start := start.getD s.here
  if ← Traced.ofAnswer (s.tree.isFile? start) then
    return ← Workspace.open s start.parent
  match ← projectRoot s.tree manifestFileNames start with
  | some root => Workspace.open s root
  | none => Traced.diagnose (.manifestMissing start.text)

/-- The lock file. -/
def lockFile (s : Surroundings) : Visit LockFile := do
  let w ← Visit.workspace
  match w.lock with
  | some f => return f
  | none =>
    let f ← Visit.ofTraced (LockFile.open s.tree w.lockPath)
    Visit.keepLock f
    return f

/-- The variable that names an environment. -/
def environmentVariable : String := "LOCKVIEW_ENVIRONMENT"

/-- The name of an environment: the given one, else that of the variable, else the usual one. -/
def environmentName (s : Surroundings) (name : Option String) : String :=
  name.getD ((s.setting? environmentVariable).getD defaultName)

/-- The environment with a name, or the one to use if none is named. -/
def environmentOf (w : Workspace) (s : Surroundings) (name : Option String) :
    Except Failure EnvironmentSpec :=
  w.manifest.environment (environmentName s name)

/-- The platforms of an environment: those of the manifest, else those it is locked for. -/
def platformsOf (s : Surroundings) (e : EnvironmentSpec) : Visit (List String) := do
  let w ← Visit.workspace
  let declared := w.manifest.environmentPlatforms e
  if declared.isEmpty then
    if ← Visit.ofTraced (Traced.ofAnswer (s.tree.exists? w.lockPath)) then
      return (← lockFile s).platforms e.name
  return declared

/-- The platform to take for an environment: the present one, unless the environment has others
only, and then the first of them. -/
def bestPlatform (s : Surroundings) (e : EnvironmentSpec) : Visit String := do
  match ← platformsOf s e with
  | [] => return s.platform
  | first :: rest =>
    if (first :: rest).contains s.platform then
      return s.platform
    Visit.ofTraced (Traced.note .debug
      ("environment " ++ e.name ++ " does not support " ++ s.platform))
    return first

end Workspace

end PinLedger

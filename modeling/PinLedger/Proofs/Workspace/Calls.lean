/-
# Calls in an open workspace

A call asks for the lock file, for the platform to take, or for a listing. All that a call changes
is that the lock file is remembered once it was read (`Call.leaves_eq`). What it answers depends on
the manifest, the lock file, the settings and the platform, and on the outline of the file tree
(`Call.outcome_congr`); only the reading of the lock file looks into a file.

Key definitions: `Call`, `Call.outcome`, `Call.leaves`, `Call.wantsLock`, `Workspace.tried`.
Key theorems: `Call.leaves_eq`, `Workspace.select_congr`, `Call.outcome_congr`.
-/
import PinLedger.Proofs.Listing.Outline
import PinLedger.Proofs.Listing.Reached

namespace PinLedger

open Outcome Visit

/-- What is asked of an open workspace. -/
inductive Call where
  | lockFile
  | bestPlatform (e : EnvironmentSpec)
  | list (q : Query)
deriving DecidableEq, Repr

/-- What is answered. -/
inductive Answer where
  | lock (f : LockFile)
  | platform (p : String)
  | packages (ps : List Package)

namespace Call

/-- What a call ends in. -/
def outcome (s : Surroundings) (w : Workspace) : Call → Except Failure Answer
  | .lockFile => .lock <$> (Workspace.lockFile s).outcome w
  | .bestPlatform e => .platform <$> (Workspace.bestPlatform s e).outcome w
  | .list q => .packages <$> (Workspace.list s q).outcome w

/-- The workspace after a call, whether it succeeds or fails. -/
def leaves (s : Surroundings) (c : Call) (w : Workspace) : Workspace :=
  match c with
  | .lockFile => (Workspace.lockFile s).leaves w
  | .bestPlatform e => (Workspace.bestPlatform s e).leaves w
  | .list q => (Workspace.list s q).leaves w

/-- Does a call come to a point where it needs the lock file? The platform to take needs it if the
manifest names none, and a listing needs it if its pattern and its environment are in order. -/
def wantsLock (m : Manifest) (s : Surroundings) : Call → Bool
  | .lockFile => true
  | .bestPlatform e => (m.environmentPlatforms e).isEmpty
  | .list q =>
    (compilePattern q.pattern).isOk &&
      (m.environment (Workspace.environmentName s q.environment)).isOk

end Call

namespace Workspace

variable (s : Surroundings) (w : Workspace)

/-! ### What calls leave -/

/-- The lock file that can be read now. -/
def readable (s : Surroundings) (lockPath : Path) : Option LockFile :=
  (LockFile.open s.tree lockPath).result.toOption

/-- The workspace after the lock file was needed: it is remembered if it was before, or if it can be
read now. -/
def tried (s : Surroundings) (w : Workspace) : Workspace :=
  { w with lock := w.lock.or (readable s w.lockPath) }

theorem tried_of_lock_eq_some {f : LockFile} (h : w.lock = some f) : tried s w = w := by
  rw [tried, h]
  exact congrArg (Workspace.mk w.root w.file) h.symm

theorem tried_of_readable_eq_none (h : readable s w.lockPath = none) : tried s w = w := by
  rw [tried, h, Option.or_none]

theorem tried_tried : tried s (tried s w) = tried s w := by
  have hlock : (tried s w).lock.or (readable s w.lockPath) = (tried s w).lock := by
    rw [tried, Option.or_assoc, Option.or_self]
  exact congrArg (Workspace.mk w.root w.file) hlock

theorem leaves_lockFile : (lockFile s).leaves w = tried s w := by
  unfold lockFile
  rw [leaves_workspace_bind]
  cases hl : w.lock with
  | some f => exact (tried_of_lock_eq_some s w hl).symm
  | none =>
    simp only [leaves_bind, outcome_ofTraced, leaves_ofTraced, tried, readable, hl]
    cases (LockFile.open s.tree w.lockPath).result with
    | error e => exact congrArg (Workspace.mk w.root w.file) hl
    | ok f => rfl

/-- A lock file that can be read is there. -/
theorem exists?_of_readable {path : Path} {f : LockFile} (h : readable s path = some f) :
    s.tree.exists? path = .ok true := by
  unfold readable LockFile.open at h
  rw [Traced.result_bind, Traced.result_ofAnswer] at h
  cases hthere : s.tree.exists? path with
  | error fault =>
    rw [hthere] at h
    simp [Except.mapError, Except.toOption] at h
  | ok there =>
    cases there with
    | true => rfl
    | false =>
      rw [hthere] at h
      simp [Except.mapError, Traced.result_bind, Except.toOption] at h

theorem readable_eq_none {path : Path} (h : s.tree.exists? path ≠ .ok true) :
    readable s path = none := by
  cases hread : readable s path with
  | none => rfl
  | some f => exact absurd (exists?_of_readable s hread) h

theorem leaves_platformsOf (e : EnvironmentSpec) : (platformsOf s e).leaves w =
    if (w.manifest.environmentPlatforms e).isEmpty then tried s w else w := by
  unfold platformsOf
  rw [leaves_workspace_bind]
  simp only
  split
  · rw [leaves_bind, outcome_ofTraced, leaves_ofTraced, Traced.result_ofAnswer]
    cases hthere : s.tree.exists? w.lockPath with
    | error fault =>
      exact (tried_of_readable_eq_none s w (readable_eq_none s (by simp [hthere]))).symm
    | ok there =>
      cases there with
      | false =>
        exact (tried_of_readable_eq_none s w (readable_eq_none s (by simp [hthere]))).symm
      | true =>
        -- The lock file is needed, whether it can be read or not.
        change (lockFile s >>= _).leaves w = tried s w
        rw [leaves_bind, leaves_lockFile]
        cases (lockFile s).outcome w <;> rfl
  · rfl

/-! ### What calls end in -/

theorem outcome_platformsOf (e : EnvironmentSpec) : (platformsOf s e).outcome w =
    if (w.manifest.environmentPlatforms e).isEmpty then do
      let there ← (s.tree.exists? w.lockPath).mapError fun fault => .breakdown (.file fault.reason)
      if there then (fun f => f.platforms e.name) <$> (lockFile s).outcome w
      else .ok (w.manifest.environmentPlatforms e)
    else .ok (w.manifest.environmentPlatforms e) := by
  unfold platformsOf
  rw [outcome_workspace_bind]
  simp only
  split
  · rw [outcome_bind, outcome_ofTraced, Traced.result_ofAnswer, leaves_ofTraced]
    cases s.tree.exists? w.lockPath with
    | error fault => rfl
    | ok there =>
      cases there with
      | false => rfl
      | true =>
        change (lockFile s >>= _).outcome w = _ <$> (lockFile s).outcome w
        rw [outcome_bind]
        cases (lockFile s).outcome w <;> rfl
  · rfl

/-- The platform to take if these are an environment's. -/
def preferred (current : String) : List String → String
  | [] => current
  | first :: rest => if (first :: rest).contains current then current else first

theorem outcome_bestPlatform (e : EnvironmentSpec) :
    (bestPlatform s e).outcome w = preferred s.platform <$> (platformsOf s e).outcome w := by
  unfold bestPlatform
  rw [outcome_bind]
  cases (platformsOf s e).outcome w with
  | error failure => rfl
  | ok platforms =>
    cases platforms with
    | nil => rfl
    | cons first rest =>
      simp only [ok_bind, preferred, Functor.map, Except.map]
      split <;> rfl

theorem outcome_select (q : Query) : (select s q).outcome w = (do
    let pattern ← compilePattern q.pattern
    let e ← w.environmentOf s q.environment
    let platform ← (platformOf s q e).outcome w
    let f ← (lockFile s).outcome w
    let records ← f.packages e.name platform
    .ok ⟨pattern, e, platform, f, records, w.manifest.requestedSpecs e (some platform)⟩) := by
  have hlock : ∀ e, (lockFile s).outcome ((platformOf s q e).leaves w) = (lockFile s).outcome w :=
    fun e => (lockKept_platformOf s w q e).outcome_lockFile
  unfold select
  simp only [outcome_bind, leaves_ofExcept, outcome_ofExcept, outcome_workspace, leaves_workspace,
    ok_bind, outcome_pure, hlock]

/-- Looking for a platform leaves the workspace as it was, or needs the lock file; and it fails only
if it needs it. -/
theorem leaves_platformOf (q : Query) (e : EnvironmentSpec) :
    (platformOf s q e).leaves w = tried s w ∨
      (platformOf s q e).leaves w = w ∧ ∃ platform, (platformOf s q e).outcome w = .ok platform := by
  unfold platformOf
  cases q.platform with
  | some p => exact .inr ⟨rfl, p, rfl⟩
  | none =>
    simp only
    rw [leaves_bestPlatform, leaves_platformsOf, outcome_bestPlatform, outcome_platformsOf]
    cases (w.manifest.environmentPlatforms e).isEmpty with
    | true => exact .inl rfl
    | false => exact .inr ⟨rfl, _, rfl⟩

/-- Nothing else is kept of what is done with the lock file. -/
theorem leaves_lockFile_bind {α : Type} {rest : LockFile → Visit α}
    (hrest : ∀ f w, (rest f).leaves w = w) : (lockFile s >>= rest).leaves w = tried s w := by
  rw [leaves_bind, leaves_lockFile]
  cases (lockFile s).outcome w with
  | error failure => rfl
  | ok f => exact hrest f (tried s w)

theorem leaves_ofExcept_bind_pure {α β : Type} (x : Except Failure α) (f : α → β) :
    (do let a ← ofExcept x; return f a : Visit β).leaves w = w := by
  rw [leaves_bind, outcome_ofExcept, leaves_ofExcept]
  cases x <;> rfl

/-- The workspace after a selection, whether it succeeds or fails. -/
theorem leaves_select (q : Query) : (select s q).leaves w =
    if (compilePattern q.pattern).isOk && (w.environmentOf s q.environment).isOk then tried s w
    else w := by
  unfold select
  rw [leaves_bind, outcome_ofExcept, leaves_ofExcept]
  cases compilePattern q.pattern with
  | error failure => rfl
  | ok pattern =>
    simp only
    rw [leaves_workspace_bind, leaves_bind, outcome_ofExcept, leaves_ofExcept]
    cases w.environmentOf s q.environment with
    | error failure => rfl
    | ok e =>
      simp only
      rw [leaves_bind]
      rcases leaves_platformOf s w q e with h | ⟨h, platform, hplatform⟩
      · rw [h]
        cases (platformOf s q e).outcome w with
        | error failure => rfl
        | ok platform =>
          refine (leaves_lockFile_bind s (tried s w) fun f w => ?_).trans (tried_tried s w)
          exact leaves_ofExcept_bind_pure w _ _
      · rw [h, hplatform]
        exact leaves_lockFile_bind s w fun f w => leaves_ofExcept_bind_pure w _ _

theorem leaves_list (q : Query) : (list s q).leaves w = (select s q).leaves w := by
  unfold list
  rw [leaves_bind]
  cases (select s q).outcome w <;> rfl

/-! ### What calls depend on -/

/-- Two situations that a selection cannot tell apart until it looks at the file tree: the workspace
is the same, the same lock file is in force, and so are the environment to use if none is named and
the platform. -/
structure Alike (s s' : Surroundings) (w w' : Workspace) : Prop where
  root : w'.root = w.root
  file : w'.file = w.file
  lock : (lockFile s').outcome w' = (lockFile s).outcome w
  environment : s'.setting? environmentVariable = s.setting? environmentVariable
  platform : s'.platform = s.platform

/-- The lock file is found to be the same after it was needed. -/
theorem outcome_lockFile_tried : (lockFile s).outcome (tried s w) = (lockFile s).outcome w := by
  have hkept := lockKept_lockFile s w
  rw [leaves_lockFile] at hkept
  exact hkept.outcome_lockFile

namespace Alike

variable {s s' : Surroundings} {w w' : Workspace}

/-- In one file tree it does not matter whether the lock file was needed before. -/
theorem of_tree (htree : s'.tree = s.tree)
    (henvironment : s'.setting? environmentVariable = s.setting? environmentVariable)
    (hplatform : s'.platform = s.platform) (hw : w' = w ∨ w' = tried s w) : Alike s s' w w' := by
  have hread : ∀ w, (lockFile s').outcome w = (lockFile s).outcome w := fun w => by
    rw [outcome_lockFile, outcome_lockFile, htree]
  rcases hw with rfl | rfl
  · exact ⟨rfl, rfl, hread w', henvironment, hplatform⟩
  · exact ⟨rfl, rfl, (hread _).trans (outcome_lockFile_tried s w), henvironment, hplatform⟩

theorem lockPath (h : Alike s s' w w') : w'.lockPath = w.lockPath := by
  rw [Workspace.lockPath, h.root]
  rfl

theorem manifest (h : Alike s s' w w') : w'.manifest = w.manifest := by
  rw [Workspace.manifest, h.file]
  rfl

theorem environmentName (h : Alike s s' w w') (name : Option String) :
    Workspace.environmentName s' name = Workspace.environmentName s name := by
  rw [Workspace.environmentName, h.environment]
  rfl

theorem environmentOf (h : Alike s s' w w') (name : Option String) :
    w'.environmentOf s' name = w.environmentOf s name := by
  rw [Workspace.environmentOf, h.manifest, h.environmentName]
  rfl

/-- The platform is the same if it does not matter whether there is a lock file, or if there is one
in both or in neither. -/
theorem outcome_bestPlatform (h : Alike s s' w w') {e : EnvironmentSpec}
    (hthere : w.manifest.environmentPlatforms e = [] →
      s'.tree.exists? w.lockPath = s.tree.exists? w.lockPath) :
    (bestPlatform s' e).outcome w' = (bestPlatform s e).outcome w := by
  rw [Workspace.outcome_bestPlatform, Workspace.outcome_bestPlatform, outcome_platformsOf,
    outcome_platformsOf, h.manifest, h.lockPath, h.lock, h.platform]
  cases hdeclared : w.manifest.environmentPlatforms e with
  | nil => rw [hthere hdeclared]
  | cons first rest => rfl

/-- The same is selected. Of the file tree at most the existence of the lock file matters. -/
theorem outcome_select (h : Alike s s' w w') {q : Query}
    (hthere : ∀ e, q.platform = none → w.environmentOf s q.environment = .ok e →
      w.manifest.environmentPlatforms e = [] →
      s'.tree.exists? w.lockPath = s.tree.exists? w.lockPath) :
    (select s' q).outcome w' = (select s q).outcome w := by
  rw [Workspace.outcome_select, Workspace.outcome_select, h.environmentOf, h.manifest, h.lock]
  cases he : w.environmentOf s q.environment with
  | error failure => rfl
  | ok e =>
    have hplatform : (platformOf s' q e).outcome w' = (platformOf s q e).outcome w := by
      unfold platformOf
      cases hq : q.platform with
      | some p => rfl
      | none => exact h.outcome_bestPlatform (hthere e hq he)
    simp only [ok_bind, hplatform]

end Alike

end Workspace

namespace Call

open Workspace

variable (s : Surroundings) (w : Workspace)

/-- A call leaves the workspace as it was, but for the lock file if it is needed. -/
theorem leaves_eq (c : Call) :
    c.leaves s w = if c.wantsLock w.manifest s then tried s w else w := by
  cases c with
  | lockFile => exact leaves_lockFile s w
  | bestPlatform e => exact (leaves_bestPlatform s w e).trans (leaves_platformsOf s w e)
  | list q => exact (leaves_list s w q).trans (leaves_select s w q)

variable {s w} {s' : Surroundings} {w' : Workspace}

/-- A call ends alike where moreover all settings and the outline of the file tree are the same. -/
theorem outcome_congr (h : Alike s s' w w') (hsettings : s'.settings = s.settings)
    (htree : s'.tree.outline = s.tree.outline) (c : Call) : c.outcome s' w' = c.outcome s w := by
  have hthere : s'.tree.exists? w.lockPath = s.tree.exists? w.lockPath := by
    rw [← s'.tree.exists?_outline, htree, s.tree.exists?_outline]
  have houtline : s'.outline = s.outline := by
    rw [Surroundings.outline, htree, hsettings, h.platform]
    rfl
  cases c with
  | lockFile => exact congrArg (Answer.lock <$> ·) h.lock
  | bestPlatform e => exact congrArg (Answer.platform <$> ·) (h.outcome_bestPlatform fun _ => hthere)
  | list q =>
    have hselect := h.outcome_select (q := q) fun _ _ _ _ => hthere
    have hlist : ∀ sel : Selection, sel.list s' q = sel.list s q := fun sel => by
      rw [← sel.list_outline s', houtline, sel.list_outline]
    simp only [Call.outcome, outcome_list, hselect, hlist]

end Call

end PinLedger

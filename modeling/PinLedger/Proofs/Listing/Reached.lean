/-
# What a query reaches

Before anything is listed, a query is followed to an environment, a platform and the records that
the lock file holds for them. To find a platform the lock file may have to be read; it is then the
one that is found afterwards.

Key definitions: `LockKept`, `Reaches`.
Key theorems: `LockKept.outcome_lockFile`, `lockKept_platformOf`, `select_eq_ok_iff`.
-/
import PinLedger.Listing
import PinLedger.Proofs.Outcome

namespace PinLedger.Workspace

open Visit Outcome

variable (s : Surroundings) (w : Workspace)

/-! ### Reading the lock file once -/

theorem outcome_lockFile : (lockFile s).outcome w =
    match w.lock with
    | some f => .ok f
    | none => (LockFile.open s.tree w.lockPath).result := by
  unfold lockFile
  rw [outcome_workspace_bind]
  cases w.lock with
  | some f => rfl
  | none => cases h : (LockFile.open s.tree w.lockPath).result <;> simp [outcome_bind, h]

/-- A workspace is as it was, except that its lock file may have been read. -/
def LockKept (w w' : Workspace) : Prop :=
  w' = w ∨ ∃ f, (lockFile s).outcome w = .ok f ∧ w' = { w with lock := some f }

variable {s w}

/-- The lock file is found to be the same. -/
theorem LockKept.outcome_lockFile {w' : Workspace} (h : LockKept s w w') :
    (lockFile s).outcome w' = (lockFile s).outcome w := by
  rcases h with rfl | ⟨f, hf, rfl⟩
  · rfl
  · rw [hf, Workspace.outcome_lockFile]

variable (s w)

theorem lockKept_lockFile : LockKept s w ((lockFile s).leaves w) := by
  have houtcome := outcome_lockFile s w
  unfold lockFile
  rw [leaves_workspace_bind]
  cases hl : w.lock with
  | some f => exact .inl rfl
  | none =>
    rw [hl] at houtcome
    cases hr : (LockFile.open s.tree w.lockPath).result with
    | error e => exact .inl (by simp [leaves_bind, hr])
    | ok f => exact .inr ⟨f, houtcome.trans hr, by simp [leaves_bind, hr]⟩

/-! ### Finding a platform -/

theorem lockKept_platformsOf (e : EnvironmentSpec) :
    LockKept s w ((platformsOf s e).leaves w) := by
  unfold platformsOf
  rw [leaves_workspace_bind]
  simp only
  split
  · rw [leaves_bind, outcome_ofTraced, leaves_ofTraced]
    cases (Traced.ofAnswer (s.tree.exists? w.lockPath)).result with
    | error _ => exact .inl rfl
    | ok found =>
      cases found with
      | false => exact .inl rfl
      | true =>
        -- The manifest names no platform, so the lock file is read, whether that succeeds or not.
        have hread := lockKept_lockFile s w
        simp only [if_true]
        rw [leaves_bind]
        cases (lockFile s).outcome w with
        | error _ => exact hread
        | ok f => exact hread
  · exact .inl rfl

/-- What is asked of the platforms of an environment leaves the workspace as they leave it. -/
theorem leaves_bestPlatform (e : EnvironmentSpec) :
    (bestPlatform s e).leaves w = (platformsOf s e).leaves w := by
  unfold bestPlatform
  rw [leaves_bind]
  cases (platformsOf s e).outcome w with
  | error _ => rfl
  | ok platforms =>
    cases platforms with
    | nil => rfl
    | cons first rest =>
      simp only
      split <;> rfl

theorem lockKept_platformOf (q : Query) (e : EnvironmentSpec) :
    LockKept s w ((platformOf s q e).leaves w) := by
  unfold platformOf
  cases q.platform with
  | some p => exact .inl rfl
  | none =>
    simp only
    rw [leaves_bestPlatform]
    exact lockKept_platformsOf s w e

/-! ### Following a query -/

/-- A query leads to an environment, a platform and the records that are locked for them. -/
structure Reaches (q : Query) (e : EnvironmentSpec) (platform : String) (records : List Record) :
    Prop where
  compiles : ∃ keeps, compilePattern q.pattern = .ok keeps
  defined : w.environmentOf s q.environment = .ok e
  chosen : (platformOf s q e).outcome w = .ok platform
  locked : ∃ f, (lockFile s).outcome w = .ok f ∧ f.packages e.name platform = .ok records

/-- The parts of a selection are what the steps of the query end in, each in the workspace that the
query starts from. -/
theorem select_eq_ok_iff (q : Query) (sel : Selection) :
    (select s q).outcome w = .ok sel ↔
      compilePattern q.pattern = .ok sel.pattern ∧
      w.environmentOf s q.environment = .ok sel.environment ∧
      (platformOf s q sel.environment).outcome w = .ok sel.platform ∧
      (lockFile s).outcome w = .ok sel.lock ∧
      sel.lock.packages sel.environment.name sel.platform = .ok sel.records ∧
      sel.explicit = w.manifest.requestedSpecs sel.environment (some sel.platform) := by
  have hlock : ∀ e, (lockFile s).outcome ((platformOf s q e).leaves w) = (lockFile s).outcome w :=
    fun e => (lockKept_platformOf s w q e).outcome_lockFile
  unfold select
  simp only [outcome_bind, leaves_ofExcept, outcome_ofExcept, outcome_workspace, leaves_workspace,
    ok_bind, outcome_pure, hlock, bind_eq_ok_iff]
  constructor
  · rintro ⟨keeps, hkeeps, e, he, p, hp, f, hf, records, hrecords, hsel⟩
    obtain rfl := Except.ok.inj hsel
    exact ⟨hkeeps, he, hp, hf, hrecords, rfl⟩
  · obtain ⟨keeps, e, p, f, records, explicit⟩ := sel
    dsimp only
    rintro ⟨hkeeps, he, hp, hf, hrecords, rfl⟩
    exact ⟨keeps, hkeeps, e, he, p, hp, f, hf, records, hrecords, rfl⟩

/-- A query reaches what some selection is about. -/
theorem reaches_iff {q : Query} {e : EnvironmentSpec} {platform : String} {records : List Record} :
    Reaches s w q e platform records ↔
      ∃ sel, (select s q).outcome w = .ok sel ∧ sel.environment = e ∧ sel.platform = platform ∧
        sel.records = records := by
  constructor
  · rintro ⟨⟨keeps, hkeeps⟩, he, hp, f, hf, hrecords⟩
    exact ⟨⟨keeps, e, platform, f, records, w.manifest.requestedSpecs e (some platform)⟩,
      (select_eq_ok_iff s w q _).mpr ⟨hkeeps, he, hp, hf, hrecords, rfl⟩, rfl, rfl, rfl⟩
  · rintro ⟨sel, hsel, rfl, rfl, rfl⟩
    obtain ⟨hkeeps, he, hp, hf, hrecords, -⟩ := (select_eq_ok_iff s w q sel).mp hsel
    exact ⟨⟨_, hkeeps⟩, he, hp, _, hf, hrecords⟩

/-- A listing selects first, and then does without the workspace. -/
theorem outcome_list (q : Query) :
    (list s q).outcome w = (select s q).outcome w >>= fun sel => (sel.list s q).result := by
  unfold list
  rw [outcome_bind]
  rfl

end PinLedger.Workspace

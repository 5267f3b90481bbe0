/-
# The steps of a listing never find a lock file out of date

Only the comparison of the lock file with the manifest reports that the lock file is out of date.
Every other step of a listing can fail in other ways only.

Key definitions: `NotOutdated`.
Key theorems: `notOutdated_select`, `notOutdated_packages`, `notOutdated_keptPackages`.
-/
import PinLedger.Proofs.Listing.Reached

namespace PinLedger

open Outcome Document

/-- A step does not end in the lock file being out of date. -/
def NotOutdated {α : Type} (x : Except Failure α) : Prop :=
  ∀ environment platform missing,
    x ≠ .error (.diagnosed (.lockOutdated environment platform missing))

namespace NotOutdated

variable {α β : Type}

theorem ok (a : α) : NotOutdated (.ok a) := by
  simp [NotOutdated]

theorem breakdown (b : Breakdown) : NotOutdated (.error (.breakdown b) : Except Failure α) := by
  simp [NotOutdated]

theorem bind {x : Except Failure α} {f : α → Except Failure β} (h : NotOutdated x)
    (hf : ∀ a, NotOutdated (f a)) : NotOutdated (x >>= f) :=
  fun environment platform missing =>
    bind_ne_error (h environment platform missing) fun a => hf a environment platform missing

theorem map {x : Except Failure α} (h : NotOutdated x) (f : α → β) : NotOutdated (f <$> x) :=
  h.bind fun a => ok (f a)

theorem traced_bind {r : Traced α} {f : α → Traced β} (h : NotOutdated r.result)
    (hf : ∀ a, NotOutdated (f a).result) : NotOutdated (r >>= f).result := by
  rw [Traced.result_bind]
  exact h.bind hf

theorem ofAnswer (x : Except OsFault α) : NotOutdated (Traced.ofAnswer x).result := by
  cases x with
  | error fault => exact breakdown _
  | ok a => exact ok a

end NotOutdated

open NotOutdated (traced_bind ofAnswer)

/-! ### Selecting -/

theorem notOutdated_compilePattern (pattern : Option String) :
    NotOutdated (compilePattern pattern) := by
  unfold compilePattern
  cases pattern with
  | none => exact .ok _
  | some text =>
    simp only
    cases Regex.parse text with
    | ok r => exact .ok _
    | error fault => cases fault <;> simp [NotOutdated, patternFailure]

theorem notOutdated_environment (m : Manifest) (name : String) :
    NotOutdated (m.environment name) := by
  unfold Manifest.environment
  cases m.environment? name <;> simp [NotOutdated]

theorem notOutdated_readDocument (path : Path) (content : Content) :
    NotOutdated (LockFile.readDocument path content) := by
  unfold LockFile.readDocument
  cases LockFile.valueOf content with
  | error fault => cases fault <;> simp [NotOutdated, LockFile.textFailure, LockFile.breakdownOf?]
  | ok v =>
    simp only
    cases LockDocument.check v <;> simp [NotOutdated]

theorem notOutdated_ofDocument (path : Path) (d : LockDocument) :
    NotOutdated (LockFile.ofDocument path d).result := by
  unfold LockFile.ofDocument
  refine traced_bind (.ok _) fun _ => ?_
  cases (LockFile.tableOf [] d.packages).records with
  | ok table => exact .ok _
  | error e =>
    obtain ⟨key, fault⟩ := e
    cases fault <;> simp [NotOutdated, LockFile.entryFailure]

theorem notOutdated_open (t : FileTree) (path : Path) :
    NotOutdated (LockFile.open t path).result := by
  unfold LockFile.open
  refine traced_bind (ofAnswer _) fun found => ?_
  -- What is left to do once it is known that there is a file.
  have hrest : NotOutdated (do
      let content ← Traced.ofAnswer (t.read path)
      LockFile.ofDocument path (← ofExcept (LockFile.readDocument path content)) :
        Traced LockFile).result := by
    refine traced_bind (ofAnswer _) fun content => traced_bind ?_ fun d => ?_
    · rw [Traced.result_ofExcept]
      exact notOutdated_readDocument path content
    · exact notOutdated_ofDocument path d
  cases found with
  | true => exact hrest
  | false => exact traced_bind (by simp [NotOutdated]) fun _ => hrest

theorem notOutdated_lockFile (s : Surroundings) (w : Workspace) :
    NotOutdated ((Workspace.lockFile s).outcome w) := by
  rw [Workspace.outcome_lockFile]
  cases w.lock with
  | some f => exact .ok f
  | none => exact notOutdated_open s.tree w.lockPath

theorem notOutdated_platformsOf (s : Surroundings) (w : Workspace) (e : EnvironmentSpec) :
    NotOutdated ((Workspace.platformsOf s e).outcome w) := by
  unfold Workspace.platformsOf
  rw [Visit.outcome_workspace_bind]
  simp only
  split
  · rw [Visit.outcome_bind]
    refine (ofAnswer _).bind fun found => ?_
    cases found with
    | false => exact .ok _
    | true =>
      simp only [if_true, Visit.leaves_ofTraced]
      rw [Visit.outcome_bind]
      exact (notOutdated_lockFile s w).bind fun f => .ok _
  · exact .ok _

theorem notOutdated_platformOf (s : Surroundings) (w : Workspace) (q : Query)
    (e : EnvironmentSpec) : NotOutdated ((Workspace.platformOf s q e).outcome w) := by
  unfold Workspace.platformOf
  cases q.platform with
  | some p => exact .ok p
  | none =>
    simp only [Workspace.bestPlatform]
    rw [Visit.outcome_bind]
    refine (notOutdated_platformsOf s w e).bind fun platforms => ?_
    cases platforms with
    | nil => exact .ok _
    | cons first rest =>
      simp only
      split
      · exact .ok _
      · exact .ok _

theorem notOutdated_lockedRecords (f : LockFile) (environment platform : String) :
    NotOutdated (f.packages environment platform) := by
  intro e p missing h
  obtain ⟨-, reference, -, -, -, hrecord⟩ := mapM_eq_error_iff.mp h
  unfold LockFile.recordOf at hrecord
  simp only at hrecord
  split at hrecord
  · exact absurd hrecord (by simp)
  · split at hrecord
    · exact absurd hrecord (by simp)
    · exact absurd hrecord (by simp)

theorem notOutdated_select (s : Surroundings) (w : Workspace) (q : Query) :
    NotOutdated ((Workspace.select s q).outcome w) := by
  unfold Workspace.select
  simp only [Visit.outcome_bind, Visit.outcome_ofExcept, Visit.leaves_ofExcept,
    Visit.outcome_workspace, Visit.leaves_workspace, ok_bind]
  refine (notOutdated_compilePattern q.pattern).bind fun keeps => ?_
  refine (notOutdated_environment w.manifest _).bind fun e => ?_
  refine (notOutdated_platformOf s w q e).bind fun platform => ?_
  refine (notOutdated_lockFile s _).bind fun f => ?_
  exact (notOutdated_lockedRecords f e.name platform).bind fun records => .ok _

/-! ### Sizing and keeping -/

theorem notOutdated_expandHome (s : Surroundings) (p : Path) : NotOutdated (s.expandHome p) := by
  unfold Surroundings.expandHome
  split
  · exact .ok _
  · split
    · exact .breakdown _
    · exact .ok _
  · exact .ok _

theorem notOutdated_wheelCache (s : Surroundings) : NotOutdated s.wheelCache := by
  have hmanager : NotOutdated s.managerCache := by
    unfold Surroundings.managerCache
    split
    · exact notOutdated_expandHome s _
    · exact .ok _
  have hinstaller : NotOutdated s.installerCache := by
    unfold Surroundings.installerCache
    split
    · exact notOutdated_expandHome s _
    · exact hmanager.map _
  unfold Surroundings.wheelCache
  split
  · exact notOutdated_expandHome s _
  · exact hinstaller.map _

theorem notOutdated_indexFor (s : Surroundings) (noInstall : Bool) (records : List Record) :
    NotOutdated (indexFor s noInstall records).result := by
  unfold indexFor
  have hrest : NotOutdated (do
      let cache ← ofExcept s.wheelCache
      if ← Traced.ofAnswer (s.tree.isDir? cache) then
        return some (WheelIndex.ofCache cache)
      Traced.note .debug ("wheel cache " ++ cache.text ++ " does not exist")
      return none : Traced (Option WheelIndex)).result := by
    refine traced_bind ?_ fun cache => traced_bind (ofAnswer _) fun found => ?_
    · rw [Traced.result_ofExcept]
      exact notOutdated_wheelCache s
    · cases found <;> exact .ok _
  split
  · exact .ok none
  · exact hrest

theorem notOutdated_unmeasured (given p : Path) (fault : OsFault) :
    NotOutdated (FileTree.unmeasured given p fault).result := by
  unfold FileTree.unmeasured
  split <;> simp [NotOutdated]

theorem notOutdated_sizeAt (t : FileTree) (p : Path) : NotOutdated (t.sizeAt p).result := by
  unfold FileTree.sizeAt
  split
  · split
    · simp [NotOutdated]
    · exact notOutdated_unmeasured _ _ _
  · split
    · split <;> exact .ok _
    · exact notOutdated_unmeasured _ _ _

theorem notOutdated_wheelsAmong (t : FileTree) (name : String) (paths : List Path) :
    NotOutdated (WheelIndex.wheelsAmong t name paths).result := by
  induction paths with
  | nil => exact .ok _
  | cons path rest ih =>
    unfold WheelIndex.wheelsAmong
    exact traced_bind (ofAnswer _) fun item => traced_bind (.ok _) fun _ =>
      traced_bind ih fun wheels => .ok _

theorem notOutdated_scan (t : FileTree) (cache : Path) (name : String) :
    NotOutdated (WheelIndex.scan t cache name).result := by
  unfold WheelIndex.scan
  refine traced_bind (ofAnswer _) fun found => ?_
  cases found with
  | false => exact .ok _
  | true =>
    exact traced_bind (ofAnswer _) fun entries =>
      traced_bind (notOutdated_wheelsAmong t name _) fun wheels => .ok _

theorem notOutdated_find (t : FileTree) (ix : WheelIndex) (name version : String) :
    NotOutdated (ix.find t name version).result := by
  have hget : NotOutdated (ix.get t name).result := by
    unfold WheelIndex.get
    simp only
    split
    · exact .ok _
    · exact traced_bind (notOutdated_scan t _ _) fun wheels => .ok _
  unfold WheelIndex.find
  cases Version.parse? version with
  | none => simp [NotOutdated]
  | some wanted =>
    simp only
    split
    · exact traced_bind (.breakdown _) fun _ => traced_bind hget fun found => .ok _
    · exact traced_bind hget fun found => .ok _

theorem notOutdated_originOfPypi (t : FileTree) (index : Option WheelIndex) (root : Option Path)
    (name : String) (r : PypiRecord) :
    NotOutdated (Package.originOfPypi t index root name r).result := by
  have hlocation : NotOutdated (Package.originOfLocation t root r.location).result := by
    unfold Package.originOfLocation
    split
    · exact .ok _
    · exact traced_bind (notOutdated_sizeAt t _) fun n => .ok _
  have hwheel : ∀ ix, NotOutdated (Package.originOfWheel t ix name r.version).result := fun ix => by
    unfold Package.originOfWheel
    refine traced_bind (notOutdated_find t ix name r.version) fun found => ?_
    split
    · exact .ok _
    · exact traced_bind (notOutdated_sizeAt t _) fun n => .ok _
  unfold Package.originOfPypi
  split
  · exact traced_bind (hwheel _) fun origin => .ok _
  · exact traced_bind hlocation fun origin => .ok _

theorem notOutdated_ofRecords (t : FileTree) (explicit : List String) (root : Option Path)
    (index : Option WheelIndex) (records : List Record) :
    NotOutdated (Package.ofRecords t explicit root index records).result := by
  induction records generalizing index with
  | nil => exact .ok []
  | cons record rest ih =>
    unfold Package.ofRecords
    refine traced_bind ?_ fun p => traced_bind (ih p.2) fun ps => .ok _
    unfold Package.ofRecord
    cases record with
    | archive r => exact .ok _
    | source r => exact .ok _
    | pypi r => exact traced_bind (notOutdated_originOfPypi t index root _ r) fun origin => .ok _

theorem notOutdated_packages (s : Surroundings) (noInstall : Bool) (sel : Selection) :
    NotOutdated (sel.packages s noInstall).result := by
  unfold Selection.packages
  exact traced_bind (notOutdated_indexFor s noInstall sel.records) fun index =>
    notOutdated_ofRecords s.tree _ _ index _

theorem notOutdated_keptPackages (q : Query) (sel : Selection) (ps : List Package) :
    NotOutdated (keptPackages q sel ps).result := by
  unfold keptPackages
  split
  · simp [NotOutdated]
  · exact .ok _

end PinLedger

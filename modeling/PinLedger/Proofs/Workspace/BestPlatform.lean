/-
# The platform to take for an environment

The platforms of an environment are those that the manifest names for it, and only if there are none
those that the lock file lists. The present platform is taken if it is one of them, or if there are
none at all. Otherwise it is the first of them: the first that the lock file lists if the manifest
names none, and the first that the manifest names if it does, whether the lock file has it or not.

Key definitions: `Workspace.supported`, `Workspace.IsBestPlatform`.
Key theorems: `outcome_platformsOf_of_lock`, `isBestPlatform_preferred`,
`best_platform_is_preferred`.
-/
import Mathlib
import PinLedger.Proofs.Files.TextFile
import PinLedger.Proofs.Manifest.Opening
import PinLedger.Proofs.Workspace.Snapshot

namespace PinLedger.Workspace

open Outcome

/-! ### The platforms of an environment -/

/-- The platforms of an environment: those of the manifest or, if there are none, those of the lock
file. -/
def supported (declared locked : List String) : List String :=
  if declared.isEmpty then locked else declared

/-- What platform is taken for an environment with these platforms in the manifest and in the lock
file. -/
structure IsBestPlatform (declared locked : List String) (current p : String) : Prop where
  present : current ∈ supported declared locked ∨ declared = [] ∧ locked = [] → p = current
  first : current ∉ supported declared locked → ¬ (declared = [] ∧ locked = []) →
    (supported declared locked).head? = some p
  /-- The platform is one of the environment's, unless there are none, -/
  supports : p ∈ supported declared locked ∨ declared = [] ∧ locked = []
  /-- and where the present one is not, it is the first that the lock file lists exactly if the
  manifest names none, or the same one first. -/
  locked_first : current ∉ supported declared locked → locked ≠ [] →
    (locked.head? = some p ↔ declared = [] ∨ declared.head? = locked.head?)

theorem supported_eq_nil_iff {declared locked : List String} :
    supported declared locked = [] ↔ declared = [] ∧ locked = [] := by
  cases declared <;> simp [supported]

theorem preferred_of_mem {current : String} {platforms : List String} (h : current ∈ platforms) :
    preferred current platforms = current := by
  cases platforms with
  | nil => rfl
  | cons first rest => exact if_pos (List.contains_iff_mem.mpr h)

theorem head?_of_not_mem {current : String} {platforms : List String} (h : current ∉ platforms)
    (hne : platforms ≠ []) : platforms.head? = some (preferred current platforms) := by
  cases platforms with
  | nil => exact absurd rfl hne
  | cons first rest =>
    have hother : (first :: rest).contains current = false := by
      rwa [← Bool.not_eq_true, List.contains_iff_mem]
    rw [preferred, hother]
    rfl

/-- What is preferred of the platforms of an environment is the platform to take. -/
theorem isBestPlatform_preferred (declared locked : List String) (current : String) :
    IsBestPlatform declared locked current (preferred current (supported declared locked)) := by
  have hfirst : current ∉ supported declared locked → ¬ (declared = [] ∧ locked = []) →
      (supported declared locked).head? = some (preferred current (supported declared locked)) :=
    fun hother hsome => head?_of_not_mem hother (mt supported_eq_nil_iff.mp hsome)
  refine ⟨?present, hfirst, ?supports, ?locked_first⟩
  case present =>
    rintro (hmem | hnone)
    · exact preferred_of_mem hmem
    · rw [supported_eq_nil_iff.mpr hnone]
      rfl
  case supports =>
    by_cases hnone : declared = [] ∧ locked = []
    · exact .inr hnone
    by_cases hmem : current ∈ supported declared locked
    · rw [preferred_of_mem hmem]
      exact .inl hmem
    · exact .inl (List.mem_of_head? (hfirst hmem hnone))
  case locked_first =>
    intro hother hlocked
    rw [← hfirst hother fun hnone => hlocked hnone.2, eq_comm]
    cases declared with
    | nil => simp [supported]
    | cons first rest => simp [supported]

/-! ### What is taken -/

variable {s : Surroundings} {w : Workspace} {f : LockFile}

/-- Where there is a lock file that can be read, an environment has the platforms of both. -/
theorem outcome_platformsOf_of_lock (hlock : (lockFile s).outcome w = .ok f)
    (hthere : s.tree.exists? w.lockPath = .ok true) (e : EnvironmentSpec) :
    (platformsOf s e).outcome w =
      .ok (supported (w.manifest.environmentPlatforms e) (f.platforms e.name)) := by
  rw [outcome_platformsOf, hthere, hlock, supported]
  cases (w.manifest.environmentPlatforms e).isEmpty <;> rfl

/-- **The platform to take for an environment.** In a workspace whose lock file can be read there is
one for every environment: the present platform if the environment has it, or has none; and else
the first of its platforms, those of the manifest before those of the lock file. A query that names
no platform is about this one. -/
theorem best_platform_is_preferred (hlock : (lockFile s).outcome w = .ok f)
    (hthere : s.tree.exists? w.lockPath = .ok true) (e : EnvironmentSpec) :
    ∃ p, (bestPlatform s e).outcome w = .ok p ∧
      IsBestPlatform (w.manifest.environmentPlatforms e) (f.platforms e.name) s.platform p ∧
      ∀ q sel, q.platform = none → (select s q).outcome w = .ok sel → sel.environment = e →
        sel.platform = p := by
  have hbest := outcome_bestPlatform s w e
  rw [outcome_platformsOf_of_lock hlock hthere] at hbest
  refine ⟨_, hbest, isBestPlatform_preferred _ _ _, ?_⟩
  rintro q sel hnone hsel rfl
  obtain ⟨-, -, hplatform, -, -, -⟩ := (select_eq_ok_iff s w q sel).mp hsel
  rw [platformOf, hnone] at hplatform
  exact (Except.ok.inj (hbest.symm.trans hplatform)).symm

/-! ### A lock file for one platform

The manifest names no platform at first, and then two, of which the lock file has the second. The
machine is of a third platform. -/

/-- A lock file for one platform. -/
def onePlatformContent : Content := .octets ("\n".intercalate
  ["version: 6", "environments:", "  default:", "    packages:",
    "      linux-64: []"]).toUTF8.toList

/-- The text is read by evaluation, and nothing but its platforms matters here. -/
theorem platforms_onePlatformContent :
    ((LockFile.readDocument ⟨.top, ["pixi.lock"]⟩ onePlatformContent >>= fun d =>
      (LockFile.ofDocument ⟨.top, ["pixi.lock"]⟩ d).result).map (·.platforms defaultName)) =
        .ok ["linux-64"] := by
  decide +kernel

theorem lockFile_onePlatform {s : Surroundings} {w : Workspace}
    (hfile : s.tree.find ⟨.top, ["pixi.lock"]⟩ = .ok (.file onePlatformContent))
    (hpath : w.lockPath = ⟨.top, ["pixi.lock"]⟩) (hnone : w.lock = none) :
    s.tree.exists? w.lockPath = .ok true ∧
      ∃ f, (lockFile s).outcome w = .ok f ∧ f.platforms defaultName = ["linux-64"] := by
  obtain ⟨hthere, hlock⟩ := outcome_lockFile_of_find (hpath ▸ hfile) hnone
  obtain ⟨f, hf, hlisted⟩ := map_eq_ok_iff.mp platforms_onePlatformContent
  rw [hlock, hpath]
  exact ⟨hpath ▸ hthere, f, hf, hlisted⟩

/-- A project without platforms, on a machine of another platform than the one that is locked. -/
def foreignProject : Surroundings := { project onePlatformContent with platform := "win-64" }

/-- The platform of the lock file is taken. -/
theorem best_platform_of_foreignProject :
    (Workspace.open foreignProject ⟨.top, []⟩).result = .ok openedProject ∧
    foreignProject.tree.exists? openedProject.lockPath = .ok true ∧
    ∃ f, (lockFile foreignProject).outcome openedProject = .ok f ∧
      f.platforms defaultName = ["linux-64"] ∧
      (bestPlatform foreignProject .default).outcome openedProject = .ok "linux-64" := by
  have hfile : foreignProject.tree.find ⟨.top, ["pixi.lock"]⟩ = .ok (.file onePlatformContent) :=
    FileTree.find_top_file rfl (by decide) (by decide) rfl
  obtain ⟨hthere, f, hf, hplatforms⟩ := lockFile_onePlatform (w := openedProject) hfile rfl rfl
  obtain ⟨p, hp, hbest, -⟩ := best_platform_is_preferred hf hthere .default
  have hfirst := hbest.first
  rw [show f.platforms EnvironmentSpec.default.name = ["linux-64"] from hplatforms] at hfirst
  obtain rfl : "linux-64" = p := Option.some.inj (hfirst (by decide) (by decide))
  exact ⟨open_project onePlatformContent, hthere, f, hf, hplatforms, hp⟩

/-- A manifest for two platforms. -/
def twoPlatformsText : String := "workspace.platforms=[\"osx-64\",\"linux-64\"]\n"

/-- A project for two platforms that is locked for the second of them. -/
def halfLocked : Surroundings where
  tree := ⟨.dir [("pixi.toml", .file (.ofText twoPlatformsText)),
    ("pixi.lock", .file onePlatformContent)], []⟩
  settings := []
  platform := "win-64"

/-- The workspace of this project. -/
def halfLockedWorkspace : Workspace where
  root := ⟨.top, []⟩
  file := ⟨.own, "//pixi.toml", { emptyManifest with platforms := ["osx-64", "linux-64"] }⟩
  lock := none

theorem open_halfLocked :
    (Workspace.open halfLocked ⟨.top, []⟩).result = .ok halfLockedWorkspace := by
  have hfile : halfLocked.tree.find ⟨.top, ["pixi.toml"]⟩ =
      .ok (.file (.ofText twoPlatformsText)) :=
    FileTree.find_top_file rfl (by decide) (by decide) rfl
  have htoml : readToml halfLocked.tree (ManifestFile.pathIn ⟨.top, []⟩ .own) =
      .ok (.ofFields [("workspace",
        .ofFields [("platforms", .list [.text "osx-64", .text "linux-64"])])]) :=
    readToml_of_text hfile (by unfold twoPlatformsText; cbv)
  have hroot : FileTree.holds (halfLocked.tree.exists? ⟨.top, []⟩) = true := by
    rw [FileTree.exists?, FileTree.find_top]
    rfl
  have hown : ManifestFile.isThere halfLocked.tree ⟨.top, []⟩ .own = true := by
    change FileTree.holds (FileTree.ask _ (halfLocked.tree.find ⟨.top, ["pixi.toml"]⟩) _) = true
    rw [hfile]
    rfl
  unfold Workspace.open
  rw [Traced.result_bind, ManifestFile.result_open, hroot, hown, Bool.and_self, if_pos rfl,
    ManifestFile.result_openOwn, htoml]
  rfl

/-- The first platform of the manifest is taken, although it is not locked and another one is. -/
theorem declared_platform_goes_first :
    (Workspace.open halfLocked ⟨.top, []⟩).result = .ok halfLockedWorkspace ∧
    halfLocked.tree.exists? halfLockedWorkspace.lockPath = .ok true ∧
    ∃ f, (lockFile halfLocked).outcome halfLockedWorkspace = .ok f ∧
      halfLocked.platform ∉ supported (halfLockedWorkspace.manifest.environmentPlatforms .default)
        (f.platforms defaultName) ∧
      (f.platforms defaultName).head? = some "linux-64" ∧
      (bestPlatform halfLocked .default).outcome halfLockedWorkspace = .ok "osx-64" ∧
      "osx-64" ∉ f.platforms defaultName := by
  have hfile : halfLocked.tree.find ⟨.top, ["pixi.lock"]⟩ = .ok (.file onePlatformContent) :=
    FileTree.find_top_file rfl (by decide) (by decide) rfl
  obtain ⟨hthere, f, hf, hplatforms⟩ :=
    lockFile_onePlatform (w := halfLockedWorkspace) hfile rfl rfl
  have hdeclared : halfLockedWorkspace.manifest.environmentPlatforms .default =
      ["osx-64", "linux-64"] := by decide
  have hbest := outcome_bestPlatform halfLocked halfLockedWorkspace .default
  rw [outcome_platformsOf_of_lock hf hthere, hdeclared] at hbest
  refine ⟨open_halfLocked, hthere, f, hf, ?_, ?_, hbest, ?_⟩
  · rw [hdeclared, hplatforms]
    decide
  · rw [hplatforms]
    rfl
  · rw [hplatforms]
    decide

end PinLedger.Workspace

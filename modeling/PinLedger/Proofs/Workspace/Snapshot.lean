/-
# Workspaces keep snapshots

An open workspace lives on while files, settings and the platform change. It keeps the manifest that
it was opened with, and the lock file of the first call that needed it and could read it. A call
that cannot read the lock file leaves no trace. What is done to the lock file after it was read
matters as far as it is a file among others: whether it is there may decide about the platform to
take, and its size counts where it is measured.

Key definitions: `lockRead`, `HasSnapshot`.
Key theorems: `run_eq`, `hasSnapshot`, `opened_workspace_after_run`.
-/
import PinLedger.Proofs.Files.Walk
import PinLedger.Proofs.History
import PinLedger.Proofs.Listing.Origin
import PinLedger.Proofs.Manifest.Opening
import PinLedger.Proofs.Workspace.Calls

namespace PinLedger.Workspace

open Outcome History

/-! ### The lock file of a run -/

/-- What a call reads in an open workspace, if it needs the lock file and can read it. -/
def lockRead (w : Workspace) (p : Surroundings × Call) : Option LockFile :=
  if p.2.wantsLock w.manifest p.1 then readable p.1 w.lockPath else none

/-- A workspace with the manifest of another one, at the same place. -/
def SameManifest (w w' : Workspace) : Prop := w'.root = w.root ∧ w'.file = w.file

theorem SameManifest.leaves {w w' : Workspace} (h : SameManifest w w') (s : Surroundings)
    (c : Call) : SameManifest w (c.leaves s w') := by
  rw [Call.leaves_eq]
  split
  · exact h
  · exact h

/-- A call adds the lock file that it reads, if there was none before. -/
theorem SameManifest.lock_leaves {w w' : Workspace} (h : SameManifest w w') (s : Surroundings)
    (c : Call) : (c.leaves s w').lock = w'.lock.or (lockRead w (s, c)) := by
  have hmanifest : w'.manifest = w.manifest := congrArg ManifestFile.manifest h.2
  have hpath : w'.lockPath = w.lockPath := congrArg (Path.child · lockFileName) h.1
  rw [Call.leaves_eq, lockRead, hmanifest]
  split
  · rw [tried, hpath]
  · rw [Option.or_none]

/-- After a run a workspace has the lock file that it had before, or else the first one that was
read. -/
theorem run_eq (s : Surroundings) (w : Workspace) (steps : List (Step Surroundings Call)) :
    (run Call.leaves (s, w) steps).2 =
      { w with lock := w.lock.or ((moments s steps).findSome? (lockRead w)) } := by
  have hkeeps : ∀ s c w', SameManifest w w' → SameManifest w (Call.leaves s c w') :=
    fun s c w' h => h.leaves s c
  obtain ⟨⟨hroot, hfile⟩, hlock⟩ := view_run (SameManifest w) Workspace.lock (lockRead w) hkeeps
    (fun s c w' h => h.lock_leaves s c) s ⟨rfl, rfl⟩ steps
  rw [← hlock, ← hroot, ← hfile]

/-! ### Snapshots -/

/-- A workspace that was opened as `w₀` goes by its manifest, and by the lock file that was read
first, if one was. -/
structure HasSnapshot (w₀ : Workspace) (first : Option LockFile) (s : Surroundings)
    (w : Workspace) : Prop where
  root : w.root = w₀.root
  manifest : w.file = w₀.file
  lock : w.lock = first
  /-- A lock file that cannot be read leaves no trace, -/
  untraced : readable s w₀.lockPath = none → ∀ c, Call.leaves s c w = w
  /-- and as long as none was read, it is read as it is then. -/
  unread : first = none → ∀ s',
    (lockFile s').outcome w = (LockFile.open s'.tree w₀.lockPath).result
  /-- The lock file that was read stays. -/
  stays : ∀ f, first = some f → ∀ steps, (run Call.leaves (s, w) steps).2 = w
  /-- A call ends as it does with the lock file that was read, or else with the one of now. -/
  inForce : ∀ c, Call.outcome s w c =
    Call.outcome s { w₀ with lock := first.or (readable s w₀.lockPath) } c
  /-- Once the lock file was read, it does not matter to a call what any file holds. -/
  unparsed : ∀ f, first = some f → ∀ s', s'.settings = s.settings → s'.platform = s.platform →
    s'.tree.outline = s.tree.outline → ∀ c, Call.outcome s' w c = Call.outcome s w c
  /-- What files there are matters only for sizes and sources, except that it may decide about the
  platform whether there is a lock file: if none is given, and the manifest names none. -/
  measured : ∀ f, first = some f → ∀ s', s'.settings = s.settings → s'.platform = s.platform →
    ∀ q, (∀ e, q.platform = none → w.environmentOf s q.environment = .ok e →
      w.manifest.environmentPlatforms e = [] →
      s'.tree.exists? w.lockPath = s.tree.exists? w.lockPath) →
    (select s' q).outcome w = (select s q).outcome w ∧
      ∀ ps ps', (list s q).outcome w = .ok ps → (list s' q).outcome w = .ok ps' →
        ps'.map Package.bare = ps.map Package.bare

variable {s : Surroundings} {w : Workspace}

/-- With a lock file in mind, the files do not matter to what is in force. -/
theorem Alike.of_lock {f : LockFile} (hlock : w.lock = some f) {s' : Surroundings}
    (hsettings : s'.settings = s.settings) (hplatform : s'.platform = s.platform) :
    Alike s s' w w where
  root := rfl
  file := rfl
  lock := by rw [outcome_lockFile, outcome_lockFile, hlock]
  environment := by rw [Surroundings.setting?, hsettings]; rfl
  platform := hplatform

theorem hasSnapshot (w₀ : Workspace) (first : Option LockFile) (s : Surroundings) :
    HasSnapshot w₀ first s { w₀ with lock := first } where
  root := rfl
  manifest := rfl
  lock := rfl
  untraced := fun hnone c => by
    have hsame : tried s { w₀ with lock := first } = { w₀ with lock := first } :=
      tried_of_readable_eq_none s _ hnone
    rw [Call.leaves_eq, hsame, ite_self]
  unread := fun hnone s' => by
    rw [outcome_lockFile, hnone]
    rfl
  stays := fun f hf steps => by
    rw [run_eq, hf]
    rfl
  inForce := fun c => by
    have halike : Alike s s { w₀ with lock := first } (tried s { w₀ with lock := first }) :=
      .of_tree rfl rfl rfl (.inr rfl)
    exact (Call.outcome_congr halike rfl rfl c).symm
  unparsed := fun f hf s' hsettings hplatform houtline c =>
    Call.outcome_congr (.of_lock hf hsettings hplatform) hsettings houtline c
  measured := fun f hf s' hsettings hplatform q hthere => by
    have hselect := (Alike.of_lock hf hsettings hplatform).outcome_select hthere
    refine ⟨hselect, fun ps ps' h h' => ?_⟩
    obtain ⟨sel, -, hsel, -, -⟩ := list_eq_ok h
    rw [map_bare_of_list hsel h, map_bare_of_list (hselect.trans hsel) h']

/-- In an opened workspace, after any run, the manifest is the one that was there when the workspace
was opened, and the lock file is the first one that a call could read. -/
theorem opened_workspace_after_run {s₀ : Surroundings} {root : Path} {w₀ : Workspace}
    (hopen : (Workspace.open s₀ root).result = .ok w₀) (steps : List (Step Surroundings Call)) :
    (ManifestFile.open s₀.tree root).result = .ok w₀.file ∧ w₀.root = root ∧
      HasSnapshot w₀ ((moments s₀ steps).findSome? (lockRead w₀))
        (run Call.leaves (s₀, w₀) steps).1 (run Call.leaves (s₀, w₀) steps).2 := by
  obtain ⟨hfile, hroot, hlock⟩ := open_eq_ok hopen
  rw [run_eq, hlock, Option.none_or]
  exact ⟨hfile, hroot, hasSnapshot w₀ _ _⟩

/-! ### A project that is its own package

The size of the package is the size of the project's directory, and the lock file is in it. -/

/-- A lock file with the project itself as its only package. -/
def lockText : String := "\n".intercalate
  ["version: 6", "environments:", "  default:", "    packages:", "      linux-64:",
    "      - pypi: .", "packages:", "- pypi: .", "  name: w", "  version: a"]

/-- A directory with an empty manifest and a lock file. -/
def projectTree (lock : Content) : FileTree :=
  ⟨.dir [("pixi.toml", .file (.octets [])), ("pixi.lock", .file lock)], []⟩

/-- The project on a machine without settings. -/
def project (lock : Content) : Surroundings := ⟨projectTree lock, [], "linux-64"⟩

/-- The manifest that an empty file stands for. -/
def emptyManifest : Manifest :=
  ⟨none, [], [(defaultName, ⟨defaultName, none, ⟨[], []⟩, []⟩)], [(defaultName, .default)]⟩

/-- The project as it is opened. -/
def openedProject : Workspace := ⟨⟨.top, []⟩, ⟨.own, "//pixi.toml", emptyManifest⟩, none⟩

theorem open_project (lock : Content) :
    (Workspace.open (project lock) ⟨.top, []⟩).result = .ok openedProject := by
  have hroot : FileTree.holds ((projectTree lock).exists? ⟨.top, []⟩) = true := by
    rw [FileTree.exists?, FileTree.find_top]
    rfl
  have hfile : (projectTree lock).find ⟨.top, ["pixi.toml"]⟩ = .ok (.file (.octets [])) :=
    FileTree.find_top_file rfl (by decide) (by decide) rfl
  have hown : ManifestFile.isThere (projectTree lock) ⟨.top, []⟩ .own = true := by
    change FileTree.holds (FileTree.ask _ ((projectTree lock).find ⟨.top, ["pixi.toml"]⟩) _) = true
    rw [hfile]
    rfl
  have hread : (projectTree lock).read ⟨.top, ["pixi.toml"]⟩ = .ok (.octets []) := by
    rw [FileTree.read, hfile]
  have htoml : readToml (projectTree lock) ⟨.top, ["pixi.toml"]⟩ = .ok (.table []) := by
    unfold readToml
    rw [hread]
    rfl
  have hopen : (ManifestFile.open (projectTree lock) ⟨.top, []⟩).result =
      .ok openedProject.file := by
    unfold ManifestFile.open
    simp only [hroot, hown]
    change (ofExcept (readToml (projectTree lock) ⟨.top, ["pixi.toml"]⟩) >>= _ :
      Traced ManifestFile).result = _
    rw [htoml]
    rfl
  unfold Workspace.open
  rw [Traced.result_bind]
  change (ManifestFile.open (projectTree lock) ⟨.top, []⟩).result >>= _ = _
  rw [hopen]
  rfl

/-- What the listing takes from a lock file. -/
def digest (f : LockFile) : Path × Except Failure (List Record) :=
  (f.root, f.packages defaultName "linux-64")

/-- The content of the lock file when the project is opened. -/
def lockContent : Content := .octets lockText.toUTF8.toList

/-- The record of the project. -/
def ownRecord : PypiRecord := ⟨"w", "a", none, false, .path ".", []⟩

/-- The text is read by evaluation, and the listing does not look at more than this digest. -/
theorem digest_readDocument :
    ((LockFile.readDocument ⟨.top, ["pixi.lock"]⟩ lockContent >>= fun d =>
      (LockFile.ofDocument ⟨.top, ["pixi.lock"]⟩ d).result).map digest) =
        .ok (⟨.top, []⟩, .ok [.pypi ownRecord]) := by
  decide +kernel

/-- A lock file that is there and can be read as a file is as its document says. -/
theorem result_open_of_read {t : FileTree} {path : Path} {content : Content}
    (hthere : t.exists? path = .ok true) (hread : t.read path = .ok content) :
    (LockFile.open t path).result = LockFile.readDocument path content >>= fun d =>
      (LockFile.ofDocument path d).result := by
  unfold LockFile.open
  rw [hthere, hread]
  change (ofExcept (LockFile.readDocument path content) >>= _ : Traced LockFile).result = _
  rw [Traced.result_bind, Traced.result_ofExcept]

/-- A workspace that has read no lock file yet reads the one that is there. -/
theorem outcome_lockFile_of_find {s : Surroundings} {w : Workspace} {content : Content}
    (hfile : s.tree.find w.lockPath = .ok (.file content)) (hnone : w.lock = none) :
    s.tree.exists? w.lockPath = .ok true ∧
      (lockFile s).outcome w = LockFile.readDocument w.lockPath content >>= fun d =>
        (LockFile.ofDocument w.lockPath d).result := by
  have hthere : s.tree.exists? w.lockPath = .ok true := by
    rw [FileTree.exists?, hfile]
    rfl
  have hread : s.tree.read w.lockPath = .ok content := by
    rw [FileTree.read, hfile]
  refine ⟨hthere, ?_⟩
  rw [outcome_lockFile, hnone]
  exact result_open_of_read hthere hread

theorem readable_project : ∃ f, readable (project lockContent) ⟨.top, ["pixi.lock"]⟩ = some f ∧
    digest f = (⟨.top, []⟩, .ok [.pypi ownRecord]) := by
  have hfile : (projectTree lockContent).find ⟨.top, ["pixi.lock"]⟩ = .ok (.file lockContent) :=
    FileTree.find_top_file rfl (by decide) (by decide) rfl
  have hthere : (projectTree lockContent).exists? ⟨.top, ["pixi.lock"]⟩ = .ok true := by
    rw [FileTree.exists?, hfile]
    rfl
  have hread : (projectTree lockContent).read ⟨.top, ["pixi.lock"]⟩ = .ok lockContent := by
    rw [FileTree.read, hfile]
  have hdigest := digest_readDocument
  rw [← result_open_of_read hthere hread] at hdigest
  unfold readable
  change ∃ f, (LockFile.open (projectTree lockContent) _).result.toOption = _ ∧ _
  cases hopen : (LockFile.open (projectTree lockContent) ⟨.top, ["pixi.lock"]⟩).result with
  | error e => simp [hopen, Except.map] at hdigest
  | ok f =>
    rw [hopen] at hdigest
    exact ⟨f, rfl, Except.ok.inj hdigest⟩

/-- A query that names the platform. -/
def ownQuery : Query := { platform := some "linux-64", noInstall := true }

/-- The project as a package of this size. -/
def ownPackage (size : Nat) : Package :=
  ⟨"w", "a", none, some (size : Int), .pypi, some ".", false, false⟩

theorem sizeAt_project (lock : Content) :
    ((projectTree lock).sizeAt ⟨.top, []⟩).result = .ok lock.size := by
  have hlink : (projectTree lock).isLink? ⟨.top, []⟩ = .ok false := by
    rw [FileTree.isLink?, FileTree.findLink_top]
    rfl
  have hsettle : (projectTree lock).settle ⟨.top, []⟩ = .ok ⟨.top, []⟩ := by
    rw [FileTree.settle, hlink]
  have hsize : (projectTree lock).top.size = lock.size := Nat.zero_add lock.size
  rw [FileTree.result_sizeAt hsettle (FileTree.find_top _), hsize]

theorem list_project (lock : Content) {f : LockFile}
    (hf : digest f = (⟨.top, []⟩, .ok [.pypi ownRecord])) :
    (list (project lock) ownQuery).outcome { openedProject with lock := some f } =
      .ok [ownPackage lock.size] := by
  obtain ⟨hroot, hrecords⟩ := Prod.mk.inj hf
  let sel : Selection := ⟨none, .default, "linux-64", f, [.pypi ownRecord], []⟩
  have hsel : (select (project lock) ownQuery).outcome { openedProject with lock := some f } =
      .ok sel := (select_eq_ok_iff _ _ _ _).mpr ⟨rfl, rfl, rfl, rfl, hrecords, rfl⟩
  have hall : (sel.packages (project lock) true).result = .ok [ownPackage lock.size] := by
    change (Package.ofRecords (projectTree lock) [] (some f.root) none [.pypi ownRecord]).result = _
    rw [result_ofRecords [] f.root (by simp), mapM_eq_ok_iff]
    refine .cons ?_ .nil
    have hpath : f.root.join (Path.ofText ".") = ⟨.top, []⟩ := by
      rw [hroot]
      decide +kernel
    change _ <$> ((projectTree lock).sizeAt (f.root.join (Path.ofText ".")) >>= _ :
      Traced Package.Origin).result = _
    rw [Traced.result_bind, hpath, sizeAt_project]
    rfl
  exact list_eq_ok_iff.mpr ⟨sel, _, hsel, by simp [ownQuery], hall, rfl, by simp⟩

/-- The project is listed, and then its lock file is overwritten. -/
def lateSteps : List (Step Surroundings Call) :=
  [.call (.list ownQuery), .change (project (.zeros 1000))]

/-- The listing reads the lock file as it is when the project is opened. -/
theorem run_project : ∃ f, digest f = (⟨.top, []⟩, .ok [.pypi ownRecord]) ∧
    (moments (project lockContent) lateSteps).findSome? (lockRead openedProject) = some f := by
  obtain ⟨f, hread, hdigest⟩ := readable_project
  refine ⟨f, hdigest, ?_⟩
  have hwants : (Call.list ownQuery).wantsLock openedProject.manifest (project lockContent) = true :=
    rfl
  have hfirst : lockRead openedProject (project lockContent, .list ownQuery) = some f := by
    rw [lockRead, hwants]
    exact hread
  change ([(project lockContent, Call.list ownQuery)]).findSome? _ = _
  rw [List.findSome?_cons, hfirst]

/-- What the run ends in. -/
theorem run_lateSteps : ∃ f, digest f = (⟨.top, []⟩, .ok [.pypi ownRecord]) ∧
    run Call.leaves (project lockContent, openedProject) lateSteps =
      (project (.zeros 1000), { openedProject with lock := some f }) := by
  obtain ⟨f, hdigest, hfirst⟩ := run_project
  refine ⟨f, hdigest, Prod.ext rfl ?_⟩
  rw [run_eq, hfirst]
  rfl

/-- When the lock file is overwritten, the one that was read stays in force. -/
theorem openedProject_has_snapshot : ∃ f, digest f = (⟨.top, []⟩, .ok [.pypi ownRecord]) ∧
    HasSnapshot openedProject (some f) (project (.zeros 1000))
      (run Call.leaves (project lockContent, openedProject) lateSteps).2 := by
  obtain ⟨f, hdigest, hfirst⟩ := run_project
  obtain ⟨-, -, h⟩ := opened_workspace_after_run (open_project lockContent) lateSteps
  rw [hfirst] at h
  exact ⟨f, hdigest, h⟩

/-- The lock file was read, and a platform is given. But the next listing still depends on what the
lock file is now: its size is part of the size of the package around it. -/
theorem later_lock_file_is_measured :
    let w := (run Call.leaves (project lockContent, openedProject) lateSteps).2
    (Workspace.open (project lockContent) ⟨.top, []⟩).result = .ok openedProject ∧
      w.lock.isSome ∧ ownQuery.platform.isSome ∧
      (list (project lockContent) ownQuery).outcome w = .ok [ownPackage 124] ∧
      (list (project (.zeros 1000)) ownQuery).outcome w = .ok [ownPackage 1000] := by
  obtain ⟨f, hdigest, hfirst⟩ := run_project
  have hw : (run Call.leaves (project lockContent, openedProject) lateSteps).2 =
      { openedProject with lock := some f } := by
    rw [run_eq, hfirst]
    rfl
  have hsize : lockContent.size = 124 := by decide +kernel
  have hnow := list_project lockContent hdigest
  have hlater := list_project (.zeros 1000) hdigest
  rw [hsize] at hnow
  intro w
  rw [show w = _ from hw]
  exact ⟨open_project lockContent, rfl, rfl, hnow, hlater⟩

end PinLedger.Workspace

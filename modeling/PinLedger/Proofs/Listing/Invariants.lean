/-
# What holds of every listed package

A listed package is that of an entry of the lock file, and its shape follows from the kind of the
entry's key: a conda package has a build and is never editable, a pypi package has no build, and
the name is canonical in the ecosystem of the kind. For this the package table has to be the one
that the document of the lock file gives. An opened workspace remembers only such lock files,
whatever was asked of it before.

Key definitions: `Package.WellFormed`, `LockFile.IsRead`, `LockFile.Locks`.
Key theorems: `wellFormed_of_bare`, `kind_of_toRecord`, `Workspace.lockIsRead_run`,
`listed_packages_are_wellFormed`.
-/
import PinLedger.Proofs.LockFile.Opening
import PinLedger.Proofs.LockFile.Resolution
import PinLedger.Proofs.Spelling.Canonical
import PinLedger.Proofs.Workspace.Snapshot

namespace PinLedger

open Document Outcome History

/-! ### The shape of a package -/

/-- What holds of a package of either ecosystem. -/
structure Package.WellFormed (p : Package) : Prop where
  build : p.build = none ↔ p.kind = .pypi
  editable : p.kind = .conda → p.isEditable = false
  /-- The name is in the canonical form of its ecosystem, -/
  name : p.kind.canonical p.name = p.name
  /-- where the parts of a pypi name are separated by single dashes. -/
  separators : p.kind = .pypi →
    '_' ∉ p.name.toList ∧ '.' ∉ p.name.toList ∧ ¬ ['-', '-'] <:+: p.name.toList

theorem wellFormed_packageOf (explicit : List String) (origin : Package.Origin) (r : Record) :
    (packageOf explicit origin r).WellFormed where
  build := by cases r <;> simp [packageOf, Record.kind]
  editable := by cases r <;> simp [packageOf, Record.kind]
  name := by
    change r.kind.canonical r.normalizedName = r.normalizedName
    rw [Record.normalizedName, Name.canonical_canonical]
  separators hpypi := by
    have hkind : r.kind = .pypi := hpypi
    have hname : (packageOf explicit origin r).name = Name.pypi r.name := by
      change r.kind.canonical r.name = Name.pypi r.name
      simp only [hkind, Kind.canonical]
    rw [hname]
    exact Name.separators_pypi r.name

/-- Size and source do not matter to the shape of a package. -/
theorem wellFormed_of_bare {explicit : List String} {r : Record} {p : Package}
    (h : p.bare = bareOf explicit r) : p.WellFormed := by
  have hbare : p.bare.WellFormed := by
    rw [h]
    exact wellFormed_packageOf explicit ⟨none, none⟩ r
  exact ⟨hbare.build, hbare.editable, hbare.name, hbare.separators⟩

theorem kind_of_bare {explicit : List String} {r : Record} {p : Package}
    (h : p.bare = bareOf explicit r) : p.kind = r.kind := congrArg Package.kind h

/-! ### Records of entries -/

/-- What an entry is read as, by the kind and location of the key it is read under. -/
theorem toRecord_cases {k : Entry.Key} {entry : Fields} {r : Record}
    (h : Entry.toRecord k entry = .ok r) :
    (k.kind = "pypi" ∧ ∃ p, r = .pypi p) ∨
    (k.kind = "conda" ∧ Archive.hasExtension k.location = true ∧
      Entry.toArchive k.location entry = .ok r ∧ ∃ a, r = .archive a) ∨
    (k.kind = "conda" ∧ Archive.hasExtension k.location = false ∧ ∃ c, r = .source c) := by
  unfold Entry.toRecord at h
  split at h
  · rename_i hpypi
    simp only [Entry.toPypi, bind_eq_ok_iff, map_eq_ok_iff] at h
    obtain ⟨_, -, _, -, _, -, _, -, _, -, rfl⟩ := h
    exact .inl ⟨hpypi, _, rfl⟩
  · split at h
    · exact absurd h (by simp)
    · rename_i hconda
      have hkind := not_not.mp hconda
      split at h
      · rename_i hextension
        have harchive := h
        simp only [Entry.toArchive, bind_eq_ok_iff, map_eq_ok_iff] at h
        obtain ⟨_, -, _, -, _, -, _, -, rfl⟩ := h
        exact .inr (.inl ⟨hkind, hextension, harchive, _, rfl⟩)
      · rename_i hextension
        simp only [Entry.toSource, bind_eq_ok_iff, map_eq_ok_iff] at h
        obtain ⟨_, -, _, -, _, -, _, -, _, -, rfl⟩ := h
        exact .inr (.inr ⟨hkind, by simpa using hextension, _, rfl⟩)

/-- The kind of a record is that of the key its entry is read under. -/
theorem kind_of_toRecord {k : Entry.Key} {entry : Fields} {r : Record}
    (h : Entry.toRecord k entry = .ok r) : r.kind.word = k.kind := by
  rcases toRecord_cases h with ⟨hkind, p, rfl⟩ | ⟨hkind, -, -, a, rfl⟩ | ⟨hkind, -, c, rfl⟩
  · exact hkind.symm
  · exact hkind.symm
  · exact hkind.symm

theorem kind_eq_conda_iff {k : Entry.Key} {entry : Fields} {r : Record}
    (h : Entry.toRecord k entry = .ok r) : r.kind = .conda ↔ k.kind = "conda" := by
  have hword := kind_of_toRecord h
  cases hkind : r.kind with
  | conda => simp [← hword, hkind, Kind.word]
  | pypi => simp [← hword, hkind, Kind.word]

namespace LockFile

/-- The package table of a lock file is the one that its document gives. -/
def IsRead (f : LockFile) : Prop := (ofDocument f.path f.document).result = .ok f

theorem isRead_of_ofDocument {path : Path} {d : LockDocument} {f : LockFile}
    (h : (ofDocument path d).result = .ok f) : f.IsRead := by
  obtain ⟨hpath, hdocument, -⟩ := ofDocument_eq_ok h
  rw [IsRead, hpath, hdocument]
  exact h

theorem isRead_of_open {t : FileTree} {path : Path} {f : LockFile}
    (h : (LockFile.open t path).result = .ok f) : f.IsRead := by
  rw [result_open] at h
  split at h
  · exact absurd h (by simp)
  · exact absurd h (by simp)
  · obtain ⟨d, -, hread⟩ := bind_eq_ok_iff.mp h
    exact isRead_of_ofDocument hread
  · exact absurd h (by simp)

/-- A lock document locks an entry for an environment and platform: a reference stands for it. The
entry is read as this record. -/
def Locks (d : LockDocument) (environment platform : String) (entry : Fields) (r : Record) :
    Prop :=
  ∃ reference ∈ referencesOf d environment platform,
    entryOf d.packages (Entry.key reference) = some entry ∧
      Entry.toRecord (Entry.key entry) entry = .ok r

theorem Locks.reads {d : LockDocument} {environment platform : String} {entry : Fields} {r : Record}
    (h : Locks d environment platform entry r) : Entry.toRecord (Entry.key entry) entry = .ok r := by
  obtain ⟨-, -, -, hread⟩ := h
  exact hread

/-- The records that a lock file gives are those of the entries that it locks. -/
theorem IsRead.locks {f : LockFile} (hf : f.IsRead) {environment platform : String}
    {records : List Record} (h : f.packages environment platform = .ok records) {r : Record}
    (hr : r ∈ records) : ∃ entry, Locks f.document environment platform entry r := by
  rw [packages_eq_mapM, mapM_eq_ok_iff] at h
  obtain ⟨reference, hreference, hrecord⟩ := exists_of_mem_right h hr
  obtain ⟨-, entry, hentry, hread⟩ := (recordOf_eq_ok_iff hf).mp hrecord
  obtain ⟨hkey, -⟩ := entryOf_eq_some_iff.mp hentry
  rw [← hkey] at hread
  exact ⟨entry, reference, hreference, hentry, hread⟩

end LockFile

/-! ### Workspaces -/

namespace Workspace

/-- The lock file that a workspace remembers, if any, was read. -/
def LockIsRead (w : Workspace) : Prop := ∀ f ∈ w.lock, f.IsRead

theorem lockIsRead_open {s : Surroundings} {root : Path} {w : Workspace}
    (h : (Workspace.open s root).result = .ok w) : w.LockIsRead := by
  obtain ⟨-, -, hnone⟩ := open_eq_ok h
  intro f hf
  rw [hnone] at hf
  exact absurd hf (by simp)

/-- A call leaves a workspace with the lock file that it had, or with one that the call reads. -/
theorem LockIsRead.leaves {w : Workspace} (h : w.LockIsRead) (s : Surroundings) (c : Call) :
    (c.leaves s w).LockIsRead := by
  rw [Call.leaves_eq]
  split
  · intro f hf
    cases hlock : w.lock with
    | some f' =>
      rw [tried_of_lock_eq_some s w hlock] at hf
      exact h f hf
    | none =>
      have hread : readable s w.lockPath = some f := by
        have hor : (tried s w).lock = readable s w.lockPath := by rw [tried, hlock, Option.none_or]
        rwa [← hor]
      cases hopen : (LockFile.open s.tree w.lockPath).result with
      | error e => simp [readable, hopen, Except.toOption] at hread
      | ok f' =>
        obtain rfl : f' = f := by simpa [readable, hopen, Except.toOption] using hread
        exact LockFile.isRead_of_open hopen
  · exact h

theorem lockIsRead_run {w : Workspace} (h : w.LockIsRead) (s : Surroundings)
    (steps : List (Step Surroundings Call)) : (run Call.leaves (s, w) steps).2.LockIsRead :=
  keeps_run LockIsRead (fun s c _ hw => hw.leaves s c) s h steps

/-- The lock file that is in force was read, be it now or before. -/
theorem LockIsRead.lockFile {w : Workspace} (h : w.LockIsRead) {s : Surroundings} {f : LockFile}
    (hf : (lockFile s).outcome w = .ok f) : f.IsRead := by
  rw [outcome_lockFile] at hf
  cases hlock : w.lock with
  | some f' =>
    rw [hlock] at hf
    obtain rfl := Except.ok.inj hf
    exact h f' hlock
  | none =>
    rw [hlock] at hf
    exact LockFile.isRead_of_open hf

end Workspace

/-! ### Listings -/

/-- A listed package is that of an entry which the lock file locks for the environment and platform
of the listing, with the origin of the entry's record. -/
theorem isListed_of_entry {s : Surroundings} {w : Workspace} (hw : w.LockIsRead) {q : Query}
    {ps : List Package} (h : (Workspace.list s q).outcome w = .ok ps) :
    ∃ e platform f index, w.environmentOf s q.environment = .ok e ∧
      (Workspace.platformOf s q e).outcome w = .ok platform ∧
      (Workspace.lockFile s).outcome w = .ok f ∧
      ∀ p ∈ ps, ∃ entry r, LockFile.Locks f.document e.name platform entry r ∧
        IsListed s.tree f.root (w.manifest.requestedSpecs e (some platform)) index r p := by
  obtain ⟨sel, index, hsel, -, hlisted⟩ := list_eq_ok h
  obtain ⟨-, he, hplatform, hf, hrecords, hexplicit⟩ :=
    (Workspace.select_eq_ok_iff s w q sel).mp hsel
  rw [hexplicit] at hlisted
  refine ⟨sel.environment, sel.platform, sel.lock, index, he, hplatform, hf, fun p hp => ?_⟩
  obtain ⟨r, hr, hp⟩ := exists_of_mem_right hlisted hp
  obtain ⟨entry, hlocks⟩ := (hw.lockFile hf).locks hrecords (List.mem_filter.mp hr).1
  exact ⟨entry, r, hlocks, hp⟩

/-- Without its origin, it is what the record tells alone. -/
theorem listed_of_entry {s : Surroundings} {w : Workspace} (hw : w.LockIsRead) {q : Query}
    {ps : List Package} (h : (Workspace.list s q).outcome w = .ok ps) :
    ∃ e platform f, w.environmentOf s q.environment = .ok e ∧
      (Workspace.platformOf s q e).outcome w = .ok platform ∧
      (Workspace.lockFile s).outcome w = .ok f ∧
      ∀ p ∈ ps, ∃ entry r, LockFile.Locks f.document e.name platform entry r ∧
        p.bare = bareOf (w.manifest.requestedSpecs e (some platform)) r := by
  obtain ⟨e, platform, f, index, he, hplatform, hf, hlisted⟩ := isListed_of_entry hw h
  refine ⟨e, platform, f, he, hplatform, hf, fun p hp => ?_⟩
  obtain ⟨entry, r, hlocks, hbare, -⟩ := hlisted p hp
  exact ⟨entry, r, hlocks, hbare⟩

/-- **What holds of every listed package.** In an opened workspace, after any run, a package that a
listing gives has no build exactly if it is a pypi package, is editable only if it is one, and is
named in the canonical form of its ecosystem. It is that of an entry that the lock file locks, and
it is a conda package exactly if the key of this entry says so. -/
theorem listed_packages_are_wellFormed {s₀ : Surroundings} {root : Path} {w₀ : Workspace}
    (hopen : (Workspace.open s₀ root).result = .ok w₀) (steps : List (Step Surroundings Call))
    {s : Surroundings} {w : Workspace} (hrun : run Call.leaves (s₀, w₀) steps = (s, w))
    (q : Query) {ps : List Package} (h : (Workspace.list s q).outcome w = .ok ps) :
    ∃ e platform f, w.environmentOf s q.environment = .ok e ∧
      (Workspace.platformOf s q e).outcome w = .ok platform ∧
      (Workspace.lockFile s).outcome w = .ok f ∧
      ∀ p ∈ ps, p.WellFormed ∧
        ∃ entry r, LockFile.Locks f.document e.name platform entry r ∧
          p.bare = bareOf (w.manifest.requestedSpecs e (some platform)) r ∧
          (p.kind = .conda ↔ (Entry.key entry).kind = "conda") := by
  have hw : w.LockIsRead := by
    have hall := Workspace.lockIsRead_run (Workspace.lockIsRead_open hopen) s₀ steps
    rwa [hrun] at hall
  obtain ⟨e, platform, f, he, hplatform, hf, hlisted⟩ := listed_of_entry hw h
  refine ⟨e, platform, f, he, hplatform, hf, fun p hp => ?_⟩
  obtain ⟨entry, r, hlocks, hbare⟩ := hlisted p hp
  have hkind : p.kind = .conda ↔ (Entry.key entry).kind = "conda" := by
    obtain ⟨reference, -, -, hread⟩ := hlocks
    rw [kind_of_bare hbare]
    exact kind_eq_conda_iff hread
  exact ⟨wellFormed_of_bare hbare, entry, r, hlocks, hbare, hkind⟩

/-- The project that is its own package is listed once more after its lock file was overwritten. -/
theorem listed_project_is_wellFormed :
    ∃ w, (Workspace.open (Workspace.project Workspace.lockContent) ⟨.top, []⟩).result =
        .ok Workspace.openedProject ∧
      run Call.leaves (Workspace.project Workspace.lockContent, Workspace.openedProject)
        Workspace.lateSteps = (Workspace.project (.zeros 1000), w) ∧
      (Workspace.list (Workspace.project (.zeros 1000)) Workspace.ownQuery).outcome w =
        .ok [Workspace.ownPackage 1000] ∧
      (Workspace.ownPackage 1000).WellFormed := by
  obtain ⟨f, hdigest, hfirst⟩ := Workspace.run_project
  let w : Workspace := { Workspace.openedProject with lock := some f }
  have hopen := Workspace.open_project Workspace.lockContent
  have hrun : run Call.leaves (Workspace.project Workspace.lockContent, Workspace.openedProject)
      Workspace.lateSteps = (Workspace.project (.zeros 1000), w) := by
    refine Prod.ext rfl ?_
    rw [Workspace.run_eq, hfirst]
    rfl
  have hlist := Workspace.list_project (.zeros 1000) hdigest
  obtain ⟨e, platform, lock, -, -, -, hall⟩ :=
    listed_packages_are_wellFormed hopen Workspace.lateSteps hrun Workspace.ownQuery hlist
  exact ⟨w, hopen, hrun, hlist, (hall _ (List.mem_singleton_self _)).1⟩

end PinLedger

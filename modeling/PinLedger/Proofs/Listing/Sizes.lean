/-
# Sizes of listed packages

A size is recorded or measured. What is measured is a number of octets and so not negative; what is
recorded is whatever number the entry of a conda archive gives. So a listed package has a negative
size exactly if its entry records it. Where no entry does, sorting by size puts the packages whose
size is not known first, together with the empty ones.

Key definitions: `Record.recordedSize`, `Entry.RecordsSize`, `SizesNonneg`, `UnsizedFirst`,
`LockFile.RecordsNegativeSize`.
Key theorems: `size_eq_iff_recorded`, `Entry.recordsSize_iff`, `unsizedFirst_sortPackages_iff`,
`negative_sizes_are_recorded`.
-/
import PinLedger.Proofs.Listing.Invariants
import PinLedger.Proofs.Listing.Order

namespace PinLedger

open Document Outcome History

/-! ### Measured sizes -/

/-- The size that a record gives, which only that of an archive may do. -/
def Record.recordedSize : Record → Option ℤ
  | .archive r => r.size
  | .source _ => none
  | .pypi _ => none

section Origin

variable {t : FileTree} {o : Package.Origin} {n : ℤ}

theorem nonneg_of_cachedOrigin {cache : Path} {name version : String}
    (h : cachedOrigin t cache name version = .ok o) (hn : o.size = some n) : 0 ≤ n := by
  unfold cachedOrigin at h
  obtain ⟨answer, -, h⟩ := bind_eq_ok_iff.mp h
  split at h
  · obtain ⟨octets, -, h⟩ := bind_eq_ok_iff.mp h
    obtain rfl := Except.ok.inj h
    obtain rfl := Option.some.inj hn
    exact Int.natCast_nonneg octets
  · obtain rfl := Except.ok.inj h
    cases hn

theorem nonneg_of_originOfLocation {root : Option Path} {location : Location}
    (h : (Package.originOfLocation t root location).result = .ok o) (hn : o.size = some n) :
    0 ≤ n := by
  unfold Package.originOfLocation at h
  split at h
  · obtain rfl := Except.ok.inj h
    cases hn
  · rw [Traced.result_bind] at h
    obtain ⟨octets, -, h⟩ := bind_eq_ok_iff.mp h
    obtain rfl := Except.ok.inj h
    obtain rfl := Option.some.inj hn
    exact Int.natCast_nonneg octets

/-- The size of a pypi package is measured. -/
theorem nonneg_of_originOf_pypi {root : Path} {cache : Option Path} {r : PypiRecord}
    (h : originOf t root cache (.pypi r) = .ok o) (hn : o.size = some n) : 0 ≤ n := by
  by_cases hlocated : r.hash = none ∨ cache = none
  · rw [originOf_pypi_eq_located hlocated] at h
    exact nonneg_of_originOfLocation h hn
  · obtain ⟨hhash, hcache⟩ := not_or.mp hlocated
    obtain ⟨hash, hhash⟩ := Option.ne_none_iff_exists'.mp hhash
    obtain ⟨cache, rfl⟩ := Option.ne_none_iff_exists'.mp hcache
    rw [originOf_pypi_eq_cached hhash] at h
    exact nonneg_of_cachedOrigin h hn

/-- A negative size is a recorded one. -/
theorem size_eq_iff_recorded {root : Path} {cache : Option Path} {r : Record}
    (h : originOf t root cache r = .ok o) (hn : n < 0) :
    o.size = some n ↔ r.recordedSize = some n := by
  cases r with
  | archive r =>
    obtain rfl := Except.ok.inj h
    exact Iff.rfl
  | source r =>
    obtain rfl := Except.ok.inj h
    exact Iff.rfl
  | pypi r =>
    refine ⟨fun hsize => ?_, fun hnone => by cases hnone⟩
    exact absurd (nonneg_of_originOf_pypi h hsize) (Int.not_le.mpr hn)

end Origin

/-! ### Recorded sizes -/

theorem ArchiveRecord.size_of_check {fields : Fields} {r : ArchiveRecord}
    (h : ArchiveRecord.check fields = .ok r) :
    fields.optional "size" none (Value.asOptional Value.asInt) = .ok r.size := by
  simp only [ArchiveRecord.check, Checked.apply_eq_ok_iff, Except.ok.injEq] at h
  -- Four fields are read behind the size, and six before it.
  obtain ⟨_, _, ⟨_, _, ⟨_, _, ⟨_, _, ⟨_, size, hbefore, hsize, rfl⟩, -, rfl⟩, -, rfl⟩, -, rfl⟩, -,
    rfl⟩ := h
  obtain ⟨_, _, ⟨_, _, ⟨_, _, ⟨_, _, ⟨_, _, ⟨_, _, rfl, -, rfl⟩, -, rfl⟩, -, rfl⟩, -, rfl⟩, -,
    rfl⟩, -, rfl⟩ := hbefore
  exact hsize

namespace Entry

/-- An entry is that of a conda archive, and its size reads as this number. -/
structure RecordsSize (entry : Fields) (n : ℤ) : Prop where
  conda : (key entry).kind = "conda"
  archive : Archive.hasExtension (key entry).location = true
  reads : Value.asOptional Value.asInt (valueOf entry "size") = .ok (some n)

theorem ofChecked_eq_ok_iff {α : Type} {c : Checked α} {a : α} :
    ofChecked c = .ok a ↔ c = .ok a := by
  cases c <;> simp [ofChecked]

theorem size_of_toArchive {location : String} {entry : Fields} {r : Record}
    (h : toArchive location entry = .ok r) :
    Value.asOptional Value.asInt (valueOf entry "size") = .ok r.recordedSize := by
  simp only [toArchive, bind_eq_ok_iff, map_eq_ok_iff] at h
  obtain ⟨parts, -, version, -, build, -, r, hr, rfl⟩ := h
  have hsize := ArchiveRecord.size_of_check (ofChecked_eq_ok_iff.mp hr)
  exact Checked.within_eq_ok_iff.mp hsize

/-- The size of a record is the one that its entry records. -/
theorem recordsSize_iff {entry : Fields} {r : Record}
    (h : toRecord (key entry) entry = .ok r) {n : ℤ} :
    RecordsSize entry n ↔ r.recordedSize = some n := by
  rcases toRecord_cases h with
    ⟨hkind, p, rfl⟩ | ⟨hkind, hextension, harchive, -⟩ | ⟨-, hextension, c, rfl⟩
  · refine ⟨fun hn => ?_, fun hnone => by cases hnone⟩
    exact absurd (hkind.symm.trans hn.conda) (by decide)
  · have hsize := size_of_toArchive harchive
    constructor
    · intro hn
      exact Except.ok.inj (hsize.symm.trans hn.reads)
    · intro hn
      exact ⟨hkind, hextension, hsize.trans (congrArg _ hn)⟩
  · refine ⟨fun hn => ?_, fun hnone => by cases hnone⟩
    exact absurd (hextension.symm.trans hn.archive) (by decide)

end Entry

/-! ### Sorting by size -/

/-- The packages whose size is not known come first, together with the empty ones. -/
def UnsizedFirst (ps : List Package) : Prop :=
  ∃ front back, ps = front ++ back ∧ (∀ p ∈ front, p.size = none ∨ p.size = some 0) ∧
    ∀ p ∈ back, ∃ n, p.size = some n ∧ 0 < n

/-- No size is negative. -/
def SizesNonneg (ps : List Package) : Prop := ∀ p ∈ ps, ∀ n, p.size = some n → 0 ≤ n

theorem getD_size_eq_zero_iff {p : Package} :
    p.size.getD 0 = 0 ↔ p.size = none ∨ p.size = some 0 := by
  cases p.size <;> simp

theorem size_eq_some_of_pos {p : Package} (h : 0 < p.size.getD 0) :
    ∃ n, p.size = some n ∧ 0 < n := by
  cases hsize : p.size with
  | none => simp [hsize] at h
  | some n => exact ⟨n, rfl, by simpa [hsize] using h⟩

theorem unsizedFirst_of_pairwise {ps : List Package} (hnonneg : SizesNonneg ps)
    (h : ps.Pairwise fun p q => p.size.getD 0 ≤ q.size.getD 0) : UnsizedFirst ps := by
  induction ps with
  | nil => exact ⟨[], [], rfl, by simp, by simp⟩
  | cons p ps ih =>
    obtain ⟨hp, hps⟩ := List.forall_mem_cons.mp hnonneg
    obtain ⟨hle, hrest⟩ := List.pairwise_cons.mp h
    by_cases hzero : p.size.getD 0 = 0
    · obtain ⟨front, back, rfl, hfront, hback⟩ := ih hps hrest
      exact ⟨p :: front, back, rfl,
        List.forall_mem_cons.mpr ⟨getD_size_eq_zero_iff.mp hzero, hfront⟩, hback⟩
    · -- From the first package with a size on, none has less.
      have hpos : 0 < p.size.getD 0 := by
        cases hsize : p.size with
        | none => simp [hsize] at hzero
        | some n =>
          have hn := hp n hsize
          simp only [hsize, Option.getD_some] at hzero ⊢
          omega
      exact ⟨[], p :: ps, rfl, by simp, List.forall_mem_cons.mpr
        ⟨size_eq_some_of_pos hpos, fun q hq => size_eq_some_of_pos (hpos.trans_le (hle q hq))⟩⟩

/-- A negative size is neither that of an empty package nor that of a larger one. -/
theorem UnsizedFirst.sizesNonneg {ps : List Package} (h : UnsizedFirst ps) : SizesNonneg ps := by
  obtain ⟨front, back, rfl, hfront, hback⟩ := h
  intro p hp n hn
  rcases List.mem_append.mp hp with hmem | hmem
  · rcases hfront p hmem with hnone | hzero
    · exact absurd (hnone.symm.trans hn) (by simp)
    · exact (Option.some.inj (hzero.symm.trans hn)).le
  · obtain ⟨m, hm, hpos⟩ := hback p hmem
    exact hpos.le.trans_eq (Option.some.inj (hm.symm.trans hn))

/-- Sorting by size puts the packages without a size first exactly if no size is negative. -/
theorem unsizedFirst_sortPackages_iff {ps : List Package} :
    UnsizedFirst (sortPackages .size ps) ↔ SizesNonneg ps := by
  have hmem : ∀ p, p ∈ sortPackages .size ps ↔ p ∈ ps := fun _ => List.mem_mergeSort
  constructor
  · exact fun h p hp => h.sizesNonneg p ((hmem p).mpr hp)
  · intro h
    have hpairwise := (pairwise_sortPackages .size ps).imp fun {p q} hle =>
      Prod.Lex.monotone_fst _ _ hle
    exact unsizedFirst_of_pairwise (fun p hp => h p ((hmem p).mp hp)) hpairwise

/-! ### Listings -/

namespace LockFile

/-- An entry that a lock document locks for an environment and platform records a negative size. -/
def RecordsNegativeSize (d : LockDocument) (environment platform : String) : Prop :=
  ∃ entry r n, Locks d environment platform entry r ∧ Entry.RecordsSize entry n ∧ n < 0

/-- The records of the entries that a lock file locks are among those that it gives. -/
theorem IsRead.mem_of_locks {f : LockFile} (hf : f.IsRead) {environment platform : String}
    {records : List Record} (h : f.packages environment platform = .ok records) {entry : Fields}
    {r : Record} (hlocks : Locks f.document environment platform entry r) : r ∈ records := by
  rw [packages_eq_mapM, mapM_eq_ok_iff] at h
  obtain ⟨reference, hreference, hentry, hread⟩ := hlocks
  obtain ⟨r', hr', hrecord⟩ := exists_of_mem_right h.flip hreference
  obtain ⟨-, entry', hentry', hread'⟩ := (recordOf_eq_ok_iff hf).mp hrecord
  obtain rfl := Option.some.inj (hentry.symm.trans hentry')
  obtain ⟨hkey, -⟩ := entryOf_eq_some_iff.mp hentry
  rw [hkey] at hread
  obtain rfl := Except.ok.inj (hread.symm.trans hread')
  exact hr'

/-- Whether a negative size is recorded is seen from the records. -/
theorem IsRead.recordsNegativeSize_iff {f : LockFile} (hf : f.IsRead)
    {environment platform : String} {records : List Record}
    (h : f.packages environment platform = .ok records) :
    RecordsNegativeSize f.document environment platform ↔
      ∃ r ∈ records, ∃ n, r.recordedSize = some n ∧ n < 0 := by
  constructor
  · rintro ⟨entry, r, n, hlocks, hn, hneg⟩
    exact ⟨r, hf.mem_of_locks h hlocks, n, (Entry.recordsSize_iff hlocks.reads).mp hn, hneg⟩
  · rintro ⟨r, hr, n, hn, hneg⟩
    obtain ⟨entry, hlocks⟩ := hf.locks h hr
    exact ⟨entry, r, n, hlocks, (Entry.recordsSize_iff hlocks.reads).mpr hn, hneg⟩

end LockFile

/-- A listed package is that of a locked entry, and has a negative size exactly if this entry
records it. -/
theorem size_of_listed {s : Surroundings} {w : Workspace} (hw : w.LockIsRead) {q : Query}
    {ps : List Package} (h : (Workspace.list s q).outcome w = .ok ps) :
    ∃ e platform f, w.environmentOf s q.environment = .ok e ∧
      (Workspace.platformOf s q e).outcome w = .ok platform ∧
      (Workspace.lockFile s).outcome w = .ok f ∧
      ∀ p ∈ ps, ∃ entry r, LockFile.Locks f.document e.name platform entry r ∧
        p.bare = bareOf (w.manifest.requestedSpecs e (some platform)) r ∧
        ∀ n < 0, p.size = some n ↔ Entry.RecordsSize entry n := by
  obtain ⟨e, platform, f, index, he, hplatform, hf, hlisted⟩ := isListed_of_entry hw h
  refine ⟨e, platform, f, he, hplatform, hf, fun p hp => ?_⟩
  obtain ⟨entry, r, hlocks, hbare, horigin⟩ := hlisted p hp
  refine ⟨entry, r, hlocks, hbare, fun n hn => ?_⟩
  rw [Entry.recordsSize_iff hlocks.reads]
  exact size_eq_iff_recorded horigin hn

/-- **Negative sizes are recorded ones.** In an opened workspace, after any run, a package that a
listing gives has a negative size exactly if the entry that it stands for is one of a conda archive
and records this size. Unless some entry that is locked for the environment and platform does so,
every size is unknown or not negative, and sorting by size puts the packages without a size at the
very beginning, together with the empty ones. -/
theorem negative_sizes_are_recorded {s₀ : Surroundings} {root : Path} {w₀ : Workspace}
    (hopen : (Workspace.open s₀ root).result = .ok w₀) (steps : List (Step Surroundings Call))
    {s : Surroundings} {w : Workspace} (hrun : run Call.leaves (s₀, w₀) steps = (s, w))
    (q : Query) {ps : List Package} (h : (Workspace.list s q).outcome w = .ok ps) :
    ∃ e platform f, w.environmentOf s q.environment = .ok e ∧
      (Workspace.platformOf s q e).outcome w = .ok platform ∧
      (Workspace.lockFile s).outcome w = .ok f ∧
      (∀ p ∈ ps, ∃ entry r, LockFile.Locks f.document e.name platform entry r ∧
        p.bare = bareOf (w.manifest.requestedSpecs e (some platform)) r ∧
        ∀ n < 0, p.size = some n ↔ Entry.RecordsSize entry n) ∧
      (¬ LockFile.RecordsNegativeSize f.document e.name platform →
        SizesNonneg ps ∧ UnsizedFirst (sortPackages .size ps)) := by
  have hw : w.LockIsRead := by
    have hall := Workspace.lockIsRead_run (Workspace.lockIsRead_open hopen) s₀ steps
    rwa [hrun] at hall
  obtain ⟨e, platform, f, he, hplatform, hf, hsizes⟩ := size_of_listed hw h
  refine ⟨e, platform, f, he, hplatform, hf, hsizes, fun hnone => ?_⟩
  have hnonneg : SizesNonneg ps := by
    intro p hp n hn
    obtain ⟨entry, r, hlocks, -, hsize⟩ := hsizes p hp
    by_contra hneg
    rw [Int.not_le] at hneg
    exact hnone ⟨entry, r, n, hlocks, (hsize n hneg).mp hn, hneg⟩
  exact ⟨hnonneg, unsizedFirst_sortPackages_iff.mpr hnonneg⟩

/-- The project that is its own package is measured again after its lock file was overwritten. -/
theorem sizes_of_listed_project :
    ∃ w, (Workspace.open (Workspace.project Workspace.lockContent) ⟨.top, []⟩).result =
        .ok Workspace.openedProject ∧
      run Call.leaves (Workspace.project Workspace.lockContent, Workspace.openedProject)
        Workspace.lateSteps = (Workspace.project (.zeros 1000), w) ∧
      (Workspace.list (Workspace.project (.zeros 1000)) Workspace.ownQuery).outcome w =
        .ok [Workspace.ownPackage 1000] ∧
      SizesNonneg [Workspace.ownPackage 1000] ∧
      UnsizedFirst (sortPackages .size [Workspace.ownPackage 1000]) := by
  obtain ⟨f, hdigest, hrun⟩ := Workspace.run_lateSteps
  have hopen := Workspace.open_project Workspace.lockContent
  have hlist := Workspace.list_project (.zeros 1000) hdigest
  obtain ⟨e, platform, lock, he, hplatform, hlock, -, hsizes⟩ :=
    negative_sizes_are_recorded hopen Workspace.lateSteps hrun Workspace.ownQuery hlist
  obtain rfl : EnvironmentSpec.default = e := Except.ok.inj he
  obtain rfl : "linux-64" = platform := Except.ok.inj hplatform
  obtain rfl : f = lock := Except.ok.inj hlock
  have hread : f.IsRead := by
    have hall := Workspace.lockIsRead_run (Workspace.lockIsRead_open hopen)
      (Workspace.project Workspace.lockContent) Workspace.lateSteps
    rw [hrun] at hall
    exact hall f rfl
  -- The only record is that of the project, and no size is recorded for it.
  have hnone : ¬ LockFile.RecordsNegativeSize f.document defaultName "linux-64" := by
    rw [hread.recordsNegativeSize_iff (Prod.mk.inj hdigest).2]
    simp [Record.recordedSize]
  exact ⟨_, hopen, hrun, hlist, hsizes hnone⟩

/-! ### An archive with a negative size -/

namespace Workspace

/-- A lock file with one archive. -/
def archiveContent : Content := .octets ("\n".intercalate
  ["version: 6", "environments:", "  default:", "    packages:", "      linux-64:",
    "      - conda: z-1-0.conda", "packages:", "- conda: z-1-0.conda", "  size: -5"]).toUTF8.toList

/-- The record of the archive. -/
def archiveRecord : ArchiveRecord :=
  ⟨"z", "1", "0", 0, none, "z-1-0.conda", some (-5), none, none, none, []⟩

/-- The package of the archive. -/
def archivePackage : Package := ⟨"z", "1", some "0", some (-5), .conda, none, false, false⟩

/-- The text is read by evaluation, and the listing does not look at more than this digest. -/
theorem digest_archiveContent :
    ((LockFile.readDocument ⟨.top, ["pixi.lock"]⟩ archiveContent >>= fun d =>
      (LockFile.ofDocument ⟨.top, ["pixi.lock"]⟩ d).result).map digest) =
        .ok (⟨.top, []⟩, .ok [.archive archiveRecord]) := by
  decide +kernel

theorem list_archive : (list (project archiveContent) ownQuery).outcome openedProject =
    .ok [archivePackage] := by
  have hfile : (projectTree archiveContent).find ⟨.top, ["pixi.lock"]⟩ =
      .ok (.file archiveContent) := FileTree.find_top_file rfl (by decide) (by decide) rfl
  obtain ⟨-, hlock⟩ := outcome_lockFile_of_find (s := project archiveContent)
    (w := openedProject) hfile rfl
  obtain ⟨f, hread, hdigest⟩ := map_eq_ok_iff.mp digest_archiveContent
  obtain ⟨hroot, hrecords⟩ := Prod.mk.inj hdigest
  let sel : Selection := ⟨none, .default, "linux-64", f, [.archive archiveRecord], []⟩
  have hsel : (select (project archiveContent) ownQuery).outcome openedProject = .ok sel :=
    (select_eq_ok_iff _ _ _ _).mpr ⟨rfl, rfl, rfl, hlock.trans hread, hrecords, rfl⟩
  have hall : (sel.packages (project archiveContent) true).result = .ok [archivePackage] := by
    change (Package.ofRecords (projectTree archiveContent) [] (some f.root) none
      [.archive archiveRecord]).result = _
    rw [result_ofRecords [] f.root (by simp), hroot]
    decide +kernel
  exact list_eq_ok_iff.mpr ⟨sel, _, hsel, by simp [ownQuery], hall, rfl, by simp⟩

end Workspace

/-- A negative number is taken for the size of the archive, and it does not stand where sorting puts
the packages without a size. -/
theorem recorded_size_may_be_negative :
    (Workspace.open (Workspace.project Workspace.archiveContent) ⟨.top, []⟩).result =
      .ok Workspace.openedProject ∧
    (Workspace.list (Workspace.project Workspace.archiveContent) Workspace.ownQuery).outcome
      Workspace.openedProject = .ok [Workspace.archivePackage] ∧
    Workspace.archivePackage.size = some (-5) ∧
    ¬ UnsizedFirst (sortPackages .size [Workspace.archivePackage]) := by
  refine ⟨Workspace.open_project _, Workspace.list_archive, rfl, fun hfirst => ?_⟩
  have hnonneg := unsizedFirst_sortPackages_iff.mp hfirst
  exact absurd (hnonneg _ (List.mem_singleton_self _) (-5) rfl) (by decide)

end PinLedger

/-
# Which listed packages are explicit

Every listed package is that of a record, in the order of the records; the files on the machine
decide its size and source and nothing else. So the explicit packages of a listing have the names
that are both declared and locked. Where the lock file must be up to date these are all declared
names.

Key definitions: `packageOf`, `HasExplicit`.
Key theorems: `ofRecords_eq_ok`, `list_eq_ok_iff`, `hasExplicit_iff`, `explicit_names_of_list`.
-/
import PinLedger.Proofs.Listing.Usage

namespace PinLedger

open Outcome

/-! ### Packages of records -/

/-- The package of a record, given its origin. -/
def packageOf (explicit : List String) (origin : Package.Origin) (record : Record) : Package where
  name := record.normalizedName
  version := record.version
  build := match record with
    | .archive r => some r.build
    | .source r => some r.build
    | .pypi _ => none
  size := origin.size
  kind := record.kind
  source := origin.source
  isExplicit := explicit.contains record.normalizedName
  isEditable := match record with
    | .pypi r => r.editable
    | _ => false

theorem ofRecord_eq_ok {t : FileTree} {explicit : List String} {root : Option Path}
    {index : Option WheelIndex} {record : Record} {out : Package × Option WheelIndex}
    (h : (Package.ofRecord t explicit root index record).result = .ok out) :
    ∃ origin, out.1 = packageOf explicit origin record := by
  unfold Package.ofRecord at h
  cases record with
  | archive r =>
    obtain rfl := Except.ok.inj h
    exact ⟨⟨r.size, r.channel⟩, rfl⟩
  | source r =>
    obtain rfl := Except.ok.inj h
    exact ⟨⟨none, some r.location⟩, rfl⟩
  | pypi r =>
    rw [Traced.result_bind, bind_eq_ok_iff] at h
    obtain ⟨⟨origin, index'⟩, -, h⟩ := h
    obtain rfl := Except.ok.inj h
    exact ⟨origin, rfl⟩

/-- The packages of some records are those of the records, one by one. -/
theorem ofRecords_eq_ok {t : FileTree} {explicit : List String} {root : Option Path}
    {index : Option WheelIndex} {records : List Record} {ps : List Package}
    (h : (Package.ofRecords t explicit root index records).result = .ok ps) :
    List.Forall₂ (fun r p => ∃ origin, p = packageOf explicit origin r) records ps := by
  induction records generalizing index ps with
  | nil =>
    obtain rfl := Except.ok.inj h
    exact .nil
  | cons record rest ih =>
    unfold Package.ofRecords at h
    simp only [Traced.result_bind, bind_eq_ok_iff] at h
    obtain ⟨⟨p, index'⟩, hp, ps', hps, h⟩ := h
    obtain rfl := Except.ok.inj h
    exact .cons (ofRecord_eq_ok hp) (ih hps)

theorem packages_eq_ok {s : Surroundings} {noInstall : Bool} {sel : Selection} {ps : List Package}
    (h : (sel.packages s noInstall).result = .ok ps) :
    List.Forall₂ (fun r p => ∃ origin, p = packageOf sel.explicit origin r) sel.records ps := by
  unfold Selection.packages at h
  rw [Traced.result_bind, bind_eq_ok_iff] at h
  obtain ⟨index, -, h⟩ := h
  exact ofRecords_eq_ok h

/-! ### Listings that succeed -/

theorem keptPackages_eq_ok_iff {q : Query} {sel : Selection} {ps kept : List Package} :
    (keptPackages q sel ps).result = .ok kept ↔
      filterPackages sel.pattern q.explicitOnly ps = kept ∧ kept ≠ [] := by
  unfold keptPackages
  cases hf : filterPackages sel.pattern q.explicitOnly ps with
  | nil =>
    constructor
    · intro h
      exact absurd h (by simp)
    · rintro ⟨rfl, hne⟩
      exact absurd rfl hne
  | cons p rest =>
    constructor
    · intro h
      obtain rfl := Except.ok.inj h
      exact ⟨rfl, List.cons_ne_nil p rest⟩
    · rintro ⟨rfl, -⟩
      rfl

/-- A listing succeeds if the selection does, the lock file is as it must be, every package can be
sized, and some package is left. -/
theorem list_eq_ok_iff {s : Surroundings} {w : Workspace} {q : Query} {ps : List Package} :
    (Workspace.list s q).outcome w = .ok ps ↔
      ∃ sel all, (Workspace.select s q).outcome w = .ok sel ∧
        (q.usage = .locked → sel.missing = []) ∧
        (sel.packages s q.noInstall).result = .ok all ∧
        filterPackages sel.pattern q.explicitOnly all = ps ∧ ps ≠ [] := by
  rw [Workspace.outcome_list, bind_eq_ok_iff]
  refine exists_congr fun sel => ?_
  rw [result_list]
  by_cases hrefused : q.usage = .locked ∧ sel.missing ≠ []
  · rw [if_pos hrefused]
    constructor
    · rintro ⟨-, h⟩
      exact absurd h (by simp)
    · rintro ⟨-, -, hm, -⟩
      exact absurd (hm hrefused.1) hrefused.2
  · have hm : q.usage = .locked → sel.missing = [] := by simpa using hrefused
    rw [if_neg hrefused]
    unfold Selection.unchecked
    rw [Traced.result_bind, bind_eq_ok_iff]
    simp only [keptPackages_eq_ok_iff]
    constructor
    · rintro ⟨hsel, all, hall, hkept⟩
      exact ⟨all, hsel, hm, hall, hkept⟩
    · rintro ⟨all, hsel, -, hall, hkept⟩
      exact ⟨hsel, all, hall, hkept⟩

/-! ### Explicit names -/

/-- An explicit package with a name is listed. -/
def HasExplicit (ps : List Package) (n : String) : Prop :=
  ∃ p ∈ ps, p.isExplicit = true ∧ p.name = n

/-- Among the packages of records, the explicit names are those that are declared and locked. -/
theorem hasExplicit_iff {explicit : List String} {records : List Record} {ps : List Package}
    (h : List.Forall₂ (fun r p => ∃ origin, p = packageOf explicit origin r) records ps)
    {n : String} :
    HasExplicit ps n ↔ n ∈ explicit ∧ ∃ r ∈ records, r.normalizedName = n := by
  unfold HasExplicit
  induction h with
  | nil => simp
  | @cons r p records ps hrp _ ih =>
    obtain ⟨origin, rfl⟩ := hrp
    have hhead : (packageOf explicit origin r).isExplicit = true ∧
        (packageOf explicit origin r).name = n ↔ n ∈ explicit ∧ r.normalizedName = n := by
      constructor
      · rintro ⟨hexplicit, rfl⟩
        exact ⟨List.contains_iff_mem.mp hexplicit, rfl⟩
      · rintro ⟨hmem, rfl⟩
        exact ⟨List.contains_iff_mem.mpr hmem, rfl⟩
    rw [List.exists_mem_cons_iff, List.exists_mem_cons_iff, hhead, ih, and_or_left]

/-- Keeping the explicit packages only keeps all explicit names. -/
theorem hasExplicit_filterPackages {ps : List Package} (explicitOnly : Bool) {n : String} :
    HasExplicit (filterPackages none explicitOnly ps) n ↔ HasExplicit ps n := by
  unfold HasExplicit filterPackages
  cases explicitOnly with
  | false => rfl
  | true =>
    refine exists_congr fun p => ?_
    rw [if_pos rfl, List.mem_filter, and_assoc]
    exact and_congr_right fun _ => and_iff_right_of_imp fun h => h.1

theorem mem_names_filterPackages_iff {ps : List Package} {n : String} :
    (∃ p ∈ filterPackages none true ps, p.name = n) ↔ HasExplicit ps n := by
  unfold HasExplicit filterPackages
  simp [List.mem_filter, and_assoc]

/-- If nothing is missing, every declared name is that of a record. -/
theorem exists_record_of_missing_eq_nil {sel : Selection} (h : sel.missing = []) {n : String}
    (hn : n ∈ sel.explicit) : ∃ r ∈ sel.records, r.normalizedName = n := by
  by_contra hnone
  have hmissing : n ∈ sel.missing := mem_missingNames_iff.mpr
    ⟨hn, fun r hr he => hnone ⟨r, hr, he⟩⟩
  rw [h] at hmissing
  exact List.not_mem_nil hmissing

/-- The explicit packages of a listing have the names that are declared and locked. Where the lock
file must be up to date, these are all declared names, and to list the explicit packages only is to
list all declared names and no others. -/
theorem explicit_names_of_list (s : Surroundings) (w : Workspace) (q : Query)
    (hpattern : q.pattern = none) {ps : List Package}
    (h : (Workspace.list s q).outcome w = .ok ps) :
    ∃ e platform records, Workspace.Reaches s w q e platform records ∧
      (∀ n, HasExplicit ps n ↔ n ∈ w.manifest.requestedSpecs e (some platform) ∧
        ∃ r ∈ records, r.normalizedName = n) ∧
      (q.usage = .locked →
        (∀ n, HasExplicit ps n ↔ n ∈ w.manifest.requestedSpecs e (some platform)) ∧
        (q.explicitOnly = true →
          ∀ n, (∃ p ∈ ps, p.name = n) ↔ n ∈ w.manifest.requestedSpecs e (some platform)) ∧
        (w.manifest.requestedSpecs e (some platform) ≠ [] →
          ∃ shown, (Workspace.list s { q with explicitOnly := true }).outcome w = .ok shown)) := by
  obtain ⟨sel, all, hsel, hm, hall, hkept, -⟩ := list_eq_ok_iff.mp h
  obtain ⟨hkeeps, -, -, -, -, hexplicit⟩ := (Workspace.select_eq_ok_iff s w q sel).mp hsel
  have hnone : sel.pattern = none := by
    rw [hpattern] at hkeeps
    exact (Except.ok.inj hkeeps).symm
  rw [hnone] at hkept
  have hnames : ∀ n, HasExplicit all n ↔
      n ∈ sel.explicit ∧ ∃ r ∈ sel.records, r.normalizedName = n := fun n =>
    hasExplicit_iff (packages_eq_ok hall)
  have hlisted : ∀ n, HasExplicit ps n ↔ HasExplicit all n := fun n => by
    rw [← hkept]
    exact hasExplicit_filterPackages q.explicitOnly
  have hdeclared : q.usage = .locked → ∀ n, HasExplicit all n ↔ n ∈ sel.explicit :=
    fun husage n => by
      rw [hnames]
      exact and_iff_left_of_imp (exists_record_of_missing_eq_nil (hm husage))
  refine ⟨sel.environment, sel.platform, sel.records,
    (Workspace.reaches_iff s w).mpr ⟨sel, hsel, rfl, rfl, rfl⟩, ?_⟩
  rw [← hexplicit]
  refine ⟨fun n => (hlisted n).trans (hnames n), fun husage => ⟨fun n => ?_, fun honly n => ?_, ?_⟩⟩
  · exact (hlisted n).trans (hdeclared husage n)
  · rw [← hkept, honly, mem_names_filterPackages_iff]
    exact hdeclared husage n
  · -- A declared name is locked, so its package is kept and the listing is not empty.
    intro hsome
    obtain ⟨n, hn⟩ := List.exists_mem_of_ne_nil _ hsome
    obtain ⟨p, hp, -⟩ := mem_names_filterPackages_iff.mpr ((hdeclared husage n).mpr hn)
    refine ⟨filterPackages none true all, list_eq_ok_iff.mpr ⟨sel, all, hsel, hm, hall, ?_, ?_⟩⟩
    · rw [hnone]
    · exact List.ne_nil_of_mem hp

/-- A package table with a package that nobody asked for between two that are declared. -/
def smallTable : List (Entry.Key × Record) := [
  (⟨"conda", "./NumPy"⟩, .source ⟨"NumPy", "1", "0", none, "./NumPy", []⟩),
  (⟨"conda", "./zlib"⟩, .source ⟨"zlib", "1", "0", none, "./zlib", []⟩),
  (⟨"pypi", "https://p.org/t"⟩, .pypi ⟨"Py_Test", "1", none, false, .url "https://p.org/t", []⟩)]

/-- The lock file that locks the whole table for one platform. -/
def smallLock : LockFile where
  path := ⟨.here, ["pixi.lock"]⟩
  document := ⟨6, [(defaultName, [("linux-64", [[("conda", .text "./NumPy")],
    [("conda", .text "./zlib")], [("pypi", .text "https://p.org/t")]])])], []⟩
  table := smallTable

/-- A workspace with the small lock file. -/
def smallWorkspace : Workspace where
  root := ⟨.here, []⟩
  file := ⟨.own, "./pixi.toml", ⟨none, ["linux-64"],
    [(defaultName, ⟨defaultName, none, ⟨["numpy"], ["py-test"]⟩, []⟩)],
    [(defaultName, .default)]⟩⟩
  lock := some smallLock

/-- Surroundings without files and settings. -/
def bareSurroundings : Surroundings := ⟨⟨.dir [], []⟩, [], "linux-64"⟩

/-- Asks for all packages of a lock file that is up to date. -/
def smallQuery : Query := { noInstall := true, usage := .locked }

theorem explicit_names_of_smallWorkspace :
    smallQuery.pattern = none ∧
    ∃ ps e platform records,
      (Workspace.list bareSurroundings smallQuery).outcome smallWorkspace = .ok ps ∧
      Workspace.Reaches bareSurroundings smallWorkspace smallQuery e platform records ∧
      ∀ n, HasExplicit ps n ↔ n ∈ smallWorkspace.manifest.requestedSpecs e (some platform) := by
  let sel : Selection := ⟨none, .default, "linux-64", smallLock, smallTable.map (·.2),
    ["numpy", "py-test"]⟩
  have hsel : (Workspace.select bareSurroundings smallQuery).outcome smallWorkspace = .ok sel := rfl
  have hlocked : (sel.explicit.filter fun name =>
      !(sel.records.map Record.normalizedName).contains name) = [] := by decide
  have hmissing : sel.missing = [] := by
    simp only [Selection.missing, missingNames, hlocked, List.mergeSort_nil]
  obtain ⟨all, hall⟩ : ∃ all, (sel.packages bareSurroundings true).result = .ok all := ⟨_, rfl⟩
  have hsome : all ≠ [] := by
    rintro rfl
    exact absurd (packages_eq_ok hall).length_eq (by decide)
  have hlist : (Workspace.list bareSurroundings smallQuery).outcome smallWorkspace = .ok all :=
    list_eq_ok_iff.mpr ⟨sel, all, hsel, fun _ => hmissing, hall, rfl, hsome⟩
  obtain ⟨e, platform, records, hreaches, -, hnames⟩ :=
    explicit_names_of_list bareSurroundings smallWorkspace smallQuery rfl hlist
  exact ⟨rfl, all, e, platform, records, hlist, hreaches, (hnames rfl).1⟩

end PinLedger

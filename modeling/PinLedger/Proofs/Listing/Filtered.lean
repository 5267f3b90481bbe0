/-
# Filters come last

The pattern and the wish for explicit packages decide nothing but which packages are kept in the
end. A listing without them has a package for every reference of the lock file; with them it fails
as the listing without them fails, and otherwise keeps packages of it in their order.

Key definitions: `Query.unfiltered`, `IsReferenced`, `leftOf`.
Key theorems: `outcome_select_eq_unfiltered`, `outcome_list_eq_unfiltered`,
`list_unfiltered_eq_ok`, `list_filters_unfiltered`.
-/
import PinLedger.Proofs.Listing.Origin
import PinLedger.Proofs.LockFile.Resolution
import PinLedger.Proofs.Workspace.Calls

namespace PinLedger

open Outcome Document

/-- A query without its filters. -/
def Query.unfiltered (q : Query) : Query := { q with pattern := none, explicitOnly := false }

/-- What is left of packages for an environment and platform; it is a failure if nothing is. -/
def leftOf (environment platform : String) (ps : List Package) : Except Failure (List Package) :=
  if ps = [] then .error (.diagnosed (.noPackages environment platform)) else .ok ps

theorem leftOf_ne_ok_nil (environment platform : String) (ps : List Package) :
    leftOf environment platform ps ≠ .ok [] := by
  unfold leftOf
  split
  · simp
  · next h => simpa using h

theorem result_keptPackages (q : Query) (sel : Selection) (ps : List Package) :
    (keptPackages q sel ps).result = leftOf sel.environment.name sel.platform
      (ps.filter (keeps sel.pattern q.explicitOnly)) := by
  unfold keptPackages leftOf
  rw [filterPackages_eq_filter]
  cases ps.filter (keeps sel.pattern q.explicitOnly) <;> rfl

/-- Without filters everything is kept. -/
theorem filter_keeps_unfiltered (ps : List Package) : ps.filter (keeps none false) = ps :=
  List.filter_eq_self.mpr fun _ _ => rfl

/-! ### Two runs -/

variable (s : Surroundings) (w : Workspace) (q : Query)

/-- The filters select nothing: a selection is that of the query without them, but for its test on
names. -/
theorem outcome_select_eq_unfiltered {test : Option (String → Bool)}
    (h : compilePattern q.pattern = .ok test) :
    (Workspace.select s q).outcome w =
      (Workspace.select s q.unfiltered).outcome w >>= fun sel =>
        .ok { sel with pattern := test } := by
  have hplatform : ∀ e, Workspace.platformOf s q.unfiltered e = Workspace.platformOf s q e :=
    fun _ => rfl
  have hnone : compilePattern q.unfiltered.pattern = .ok none := rfl
  have henvironment : q.unfiltered.environment = q.environment := rfl
  rw [Workspace.outcome_select, Workspace.outcome_select, h, hnone, henvironment]
  simp only [ok_bind, hplatform, bind_assoc]

/-- A query without filters that selects something has no test on names. -/
theorem pattern_of_select_unfiltered {sel : Selection}
    (h : (Workspace.select s q.unfiltered).outcome w = .ok sel) : sel.pattern = none := by
  obtain ⟨hpattern, -⟩ := (Workspace.select_eq_ok_iff s w q.unfiltered sel).mp h
  exact (Except.ok.inj hpattern).symm

/-- A selection without filters is listed with all its packages, if there are any. -/
theorem result_list_unfiltered {sel : Selection} (h : sel.pattern = none) :
    (sel.list s q.unfiltered).result = (do
      (checkLock q.usage sel.environment.name sel.platform sel.missing).result
      leftOf sel.environment.name sel.platform (← (sel.packages s q.noInstall).result)) := by
  unfold Selection.list
  simp only [Traced.result_bind, result_keptPackages, h]
  have hkept : ∀ ps : List Package, ps.filter (keeps none q.unfiltered.explicitOnly) = ps :=
    filter_keeps_unfiltered
  simp only [hkept]
  rfl

theorem leftOf_bind_leftOf_filter (environment platform : String) (keep : Package → Bool)
    (ps : List Package) :
    (leftOf environment platform ps >>= fun all => leftOf environment platform (all.filter keep)) =
      leftOf environment platform (ps.filter keep) := by
  cases ps <;> rfl

/-- The packages of a selection are checked, sized and counted as without filters, and then those
that the query asks for are kept. -/
theorem result_list_eq_unfiltered {sel : Selection} (h : sel.pattern = none)
    (test : Option (String → Bool)) :
    (Selection.list s q { sel with pattern := test }).result =
      (sel.list s q.unfiltered).result >>= fun all =>
        leftOf sel.environment.name sel.platform (all.filter (keeps test q.explicitOnly)) := by
  rw [result_list_unfiltered s q h]
  unfold Selection.list
  simp only [Traced.result_bind, result_keptPackages, bind_assoc, leftOf_bind_leftOf_filter]
  rfl

/-- A listing is that of the query without filters, and then keeps what the query asks for. -/
theorem outcome_list_eq_unfiltered {test : Option (String → Bool)}
    (h : compilePattern q.pattern = .ok test) :
    (Workspace.list s q).outcome w =
      (Workspace.select s q.unfiltered).outcome w >>= fun sel =>
        (sel.list s q.unfiltered).result >>= fun all =>
          leftOf sel.environment.name sel.platform (all.filter (keeps test q.explicitOnly)) := by
  rw [Workspace.outcome_list, outcome_select_eq_unfiltered s w q h]
  cases hsel : (Workspace.select s q.unfiltered).outcome w with
  | error failure => rfl
  | ok sel =>
    simp only [ok_bind]
    exact result_list_eq_unfiltered s q (pattern_of_select_unfiltered s w q hsel) test

/-! ### Without filters -/

/-- A package is that of the record which a reference of a lock file stands for. -/
def IsReferenced (t : FileTree) (f : LockFile) (environment : String) (explicit : List String)
    (index : Option WheelIndex) (reference : Fields) (p : Package) : Prop :=
  ∃ r, f.recordOf environment reference = .ok r ∧ IsListed t f.root explicit index r p

/-- Records of references and packages of records are packages of references. -/
theorem isReferenced_of_forall₂ {t : FileTree} {f : LockFile} {environment : String}
    {explicit : List String} {index : Option WheelIndex} {references : List Fields}
    {records : List Record} {ps : List Package}
    (hrecords : List.Forall₂ (fun reference r => f.recordOf environment reference = .ok r)
      references records)
    (hps : List.Forall₂ (IsListed t f.root explicit index) records ps) :
    List.Forall₂ (IsReferenced t f environment explicit index) references ps := by
  induction hrecords generalizing ps with
  | nil =>
    cases hps
    exact .nil
  | cons hr _ ih =>
    cases hps with
    | cons hp hps => exact .cons ⟨_, hr, hp⟩ (ih hps)

/-- A listing without filters has one package for every reference of the lock file for the
environment and platform, in the order of the references. -/
theorem list_unfiltered_eq_ok {all : List Package}
    (h : (Workspace.list s q.unfiltered).outcome w = .ok all) :
    ∃ sel index, (Workspace.select s q.unfiltered).outcome w = .ok sel ∧
      (sel.list s q.unfiltered).result = .ok all ∧
      (indexFor s q.noInstall sel.records).result = .ok index ∧
      List.Forall₂ (IsReferenced s.tree sel.lock sel.environment.name sel.explicit index)
        (LockFile.referencesOf sel.lock.document sel.environment.name sel.platform) all := by
  obtain ⟨sel, index, hsel, hindex, hlisted⟩ := list_eq_ok h
  have hlist : (sel.list s q.unfiltered).result = .ok all := by
    rwa [Workspace.outcome_list, hsel, ok_bind] at h
  have hkept : sel.kept q.unfiltered = sel.records := by
    unfold Selection.kept
    rw [pattern_of_select_unfiltered s w q hsel]
    exact List.filter_eq_self.mpr fun _ _ => rfl
  obtain ⟨-, -, -, -, hrecords, -⟩ := (Workspace.select_eq_ok_iff s w q.unfiltered sel).mp hsel
  rw [LockFile.packages_eq_mapM, mapM_eq_ok_iff] at hrecords
  rw [hkept] at hlisted
  exact ⟨sel, index, hsel, hlist, hindex, isReferenced_of_forall₂ hrecords hlisted⟩

/-! ### With filters -/

/-- **Filtering comes after everything else.** If a listing without filters fails, the listing with
them fails in the same way. Otherwise the former has a package for every reference that the lock
file holds for the environment and platform, in their order, and at least one; and the latter keeps
those of them whose names the pattern is found in and, if explicit packages only are asked for,
which are explicit. It fails if there are none, and only then. -/
theorem list_filters_unfiltered {test : Option (String → Bool)}
    (h : compilePattern q.pattern = .ok test) :
    (∀ failure, (Workspace.list s q.unfiltered).outcome w = .error failure →
      (Workspace.list s q).outcome w = .error failure) ∧
    (∀ all, (Workspace.list s q.unfiltered).outcome w = .ok all →
      all ≠ [] ∧
      ∃ e platform f records index, w.environmentOf s q.environment = .ok e ∧
        (Workspace.platformOf s q e).outcome w = .ok platform ∧
        (Workspace.lockFile s).outcome w = .ok f ∧
        f.packages e.name platform = .ok records ∧
        (indexFor s q.noInstall records).result = .ok index ∧
        List.Forall₂ (IsReferenced s.tree f e.name
            (w.manifest.requestedSpecs e (some platform)) index)
          (LockFile.referencesOf f.document e.name platform) all ∧
        (Workspace.list s q).outcome w =
          if all.filter (keeps test q.explicitOnly) = [] then
            .error (.diagnosed (.noPackages e.name platform))
          else .ok (all.filter (keeps test q.explicitOnly))) ∧
    (Workspace.list s q).outcome w ≠ .ok [] := by
  have hfiltered := outcome_list_eq_unfiltered s w q h
  refine ⟨fun failure hfails => ?_, fun all hall => ?_, fun hnil => ?_⟩
  · rw [Workspace.outcome_list, bind_eq_error_iff] at hfails
    rw [hfiltered, bind_eq_error_iff]
    rcases hfails with hselect | ⟨sel, hsel, hlist⟩
    · exact .inl hselect
    · exact .inr ⟨sel, hsel, bind_eq_error_iff.mpr (.inl hlist)⟩
  · obtain ⟨sel, index, hsel, hlist, hindex, hlisted⟩ := list_unfiltered_eq_ok s w q hall
    obtain ⟨-, he, hplatform, hf, hrecords, hexplicit⟩ :=
      (Workspace.select_eq_ok_iff s w q.unfiltered sel).mp hsel
    obtain ⟨-, -, -, -, -, -, hsome⟩ := list_eq_ok_iff.mp hall
    rw [hexplicit] at hlisted
    refine ⟨hsome, sel.environment, sel.platform, sel.lock, sel.records, index, he, hplatform, hf,
      hrecords, hindex, hlisted, ?_⟩
    rw [hfiltered, hsel, ok_bind, hlist, ok_bind]
    rfl
  · rw [hfiltered] at hnil
    obtain ⟨sel, -, hnil⟩ := bind_eq_ok_iff.mp hnil
    obtain ⟨all, -, hnil⟩ := bind_eq_ok_iff.mp hnil
    exact leftOf_ne_ok_nil _ _ _ hnil

/-- Asks for the explicit packages among those with one of two letters in their names. -/
def pickyQuery : Query :=
  { smallQuery with pattern := some "t|z", explicitOnly := true, usage := .frozen }

/-- The packages of the small lock file, in the order of its references. -/
def smallPackages : List Package := [
  ⟨"numpy", "1", some "0", none, .conda, some "./NumPy", true, false⟩,
  ⟨"zlib", "1", some "0", none, .conda, some "./zlib", false, false⟩,
  ⟨"py-test", "1", none, none, .pypi, some "https://p.org/t", true, false⟩]

theorem list_filters_smallWorkspace :
    ∃ test, compilePattern pickyQuery.pattern = .ok test ∧
      (Workspace.list bareSurroundings pickyQuery.unfiltered).outcome smallWorkspace =
        .ok smallPackages ∧
      (Workspace.list bareSurroundings pickyQuery).outcome smallWorkspace =
        .ok [⟨"py-test", "1", none, none, .pypi, some "https://p.org/t", true, false⟩] := by
  obtain ⟨test, htest, hkept⟩ : ∃ test, compilePattern pickyQuery.pattern = .ok test ∧
      smallPackages.filter (keeps test true) =
        [⟨"py-test", "1", none, none, .pypi, some "https://p.org/t", true, false⟩] :=
    ⟨_, rfl, by decide⟩
  have hall : (Workspace.list bareSurroundings pickyQuery.unfiltered).outcome smallWorkspace =
      .ok smallPackages := rfl
  obtain ⟨-, hlisted, -⟩ :=
    list_filters_unfiltered bareSurroundings smallWorkspace pickyQuery htest
  obtain ⟨-, e, platform, f, records, index, -, -, -, -, -, -, hps⟩ := hlisted smallPackages hall
  rw [show pickyQuery.explicitOnly = true from rfl, hkept] at hps
  exact ⟨test, htest, hall, hps⟩

end PinLedger

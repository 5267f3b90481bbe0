/-
# The usages of a lock file agree

How far the lock file is trusted decides only whether a listing is refused. Without looking at it,
and with a warning, the outcome is the same. Where the lock file must be up to date, the listing is
refused exactly if the query reaches records and a declared name is not locked by one of them; if it
is not refused, its outcome is the same again.

Key definitions: `Unlocked`, `Selection.unchecked`, `outcomeAs`.
Key theorems: `mem_missingNames_iff`, `pairwise_missingNames`, `result_list`,
`locked_refused_iff`, `outcomes_by_usage`.
-/
import PinLedger.Proofs.Listing.Steps
import PinLedger.Proofs.Sorting

namespace PinLedger

open Outcome

/-! ### The missing names -/

theorem mem_missingNames_iff {explicit : List String} {records : List Record} {n : String} :
    n ∈ missingNames explicit records ↔ n ∈ explicit ∧ ∀ r ∈ records, r.normalizedName ≠ n := by
  simp [missingNames]

/-- The missing names stand in the order of their code points, each once. -/
theorem pairwise_missingNames {explicit : List String} (h : explicit.Nodup)
    (records : List Record) : (missingNames explicit records).Pairwise (· < ·) :=
  Sorting.pairwise_lt_mergeSort (h.filter _)

/-! ### What the comparison decides -/

theorem result_checkLock (usage : LockUsage) (environment platform : String)
    (missing : List String) : (checkLock usage environment platform missing).result =
      if usage = .locked ∧ missing ≠ [] then
        .error (.diagnosed (.lockOutdated environment platform missing))
      else .ok () := by
  cases usage <;> cases missing <;> rfl

/-- Lists the packages of a selection without looking at what is missing. -/
def Selection.unchecked (s : Surroundings) (q : Query) (sel : Selection) :
    Traced (List Package) := do
  keptPackages q sel (← sel.packages s q.noInstall)

theorem result_list (s : Surroundings) (q : Query) (sel : Selection) : (sel.list s q).result =
    if q.usage = .locked ∧ sel.missing ≠ [] then
      .error (.diagnosed (.lockOutdated sel.environment.name sel.platform sel.missing))
    else (sel.unchecked s q).result := by
  unfold Selection.list
  rw [Traced.result_bind, result_checkLock]
  split <;> rfl

theorem notOutdated_unchecked (s : Surroundings) (q : Query) (sel : Selection) :
    NotOutdated (sel.unchecked s q).result :=
  NotOutdated.traced_bind (notOutdated_packages s q.noInstall sel) fun ps =>
    notOutdated_keptPackages q sel ps

/-! ### The three usages -/

/-- What a query ends in if the lock file is used in a certain way. -/
def outcomeAs (s : Surroundings) (w : Workspace) (q : Query) (usage : LockUsage) :
    Except Failure (List Package) :=
  (Workspace.list s { q with usage := usage }).outcome w

/-- A name is declared for an environment and platform, and none of the records has it. -/
def Unlocked (w : Workspace) (e : EnvironmentSpec) (platform : String) (records : List Record)
    (n : String) : Prop :=
  n ∈ w.manifest.requestedSpecs e (some platform) ∧ ∀ r ∈ records, r.normalizedName ≠ n

variable (s : Surroundings) (w : Workspace) (q : Query)

theorem outcomeAs_eq (usage : LockUsage) : outcomeAs s w q usage =
    (Workspace.select s q).outcome w >>= fun sel =>
      if usage = .locked ∧ sel.missing ≠ [] then
        .error (.diagnosed (.lockOutdated sel.environment.name sel.platform sel.missing))
      else (sel.unchecked s q).result := by
  unfold outcomeAs
  rw [Workspace.outcome_list]
  exact congrArg _ (funext fun sel => result_list s _ sel)

theorem outcomeAs_eq_of_ne_locked {usage : LockUsage} (h : usage ≠ .locked) :
    outcomeAs s w q usage =
      (Workspace.select s q).outcome w >>= fun sel => (sel.unchecked s q).result := by
  rw [outcomeAs_eq]
  simp [h]

/-- A locked listing is refused for what a selection lacks. -/
theorem outcomeAs_locked_eq_error_iff {environment platform : String} {missing : List String} :
    outcomeAs s w q .locked = .error (.diagnosed (.lockOutdated environment platform missing)) ↔
      ∃ sel, (Workspace.select s q).outcome w = .ok sel ∧ sel.missing ≠ [] ∧
        sel.environment.name = environment ∧ sel.platform = platform ∧ sel.missing = missing := by
  rw [outcomeAs_eq, bind_eq_error_iff]
  constructor
  · rintro (h | ⟨sel, hsel, h⟩)
    · exact absurd h (notOutdated_select s w q _ _ _)
    · by_cases hm : sel.missing = []
      · rw [if_neg (by simp [hm])] at h
        exact absurd h (notOutdated_unchecked s q sel _ _ _)
      · rw [if_pos ⟨rfl, hm⟩] at h
        simp only [Except.error.injEq, Failure.diagnosed.injEq, Diagnosis.lockOutdated.injEq] at h
        exact ⟨sel, hsel, hm, h⟩
  · rintro ⟨sel, hsel, hm, rfl, rfl, rfl⟩
    exact .inr ⟨sel, hsel, if_pos ⟨rfl, hm⟩⟩

/-- What a selection lacks is what is declared and not locked. -/
theorem mem_missing_iff {sel : Selection} (h : (Workspace.select s q).outcome w = .ok sel)
    {n : String} :
    n ∈ sel.missing ↔ Unlocked w sel.environment sel.platform sel.records n := by
  obtain ⟨-, -, -, -, -, hexplicit⟩ := (Workspace.select_eq_ok_iff s w q sel).mp h
  unfold Selection.missing Unlocked
  rw [mem_missingNames_iff, hexplicit]

theorem outcomeAs_update_eq_frozen : outcomeAs s w q .update = outcomeAs s w q .frozen := by
  rw [outcomeAs_eq_of_ne_locked s w q (by decide), outcomeAs_eq_of_ne_locked s w q (by decide)]

/-- A listing that wants the lock file to be up to date is refused exactly if the query reaches
records and a declared name is not locked. -/
theorem locked_refused_iff :
    (∃ environment platform missing, outcomeAs s w q .locked =
        .error (.diagnosed (.lockOutdated environment platform missing))) ↔
      ∃ e platform records, Workspace.Reaches s w q e platform records ∧
        ∃ n, Unlocked w e platform records n := by
  constructor
  · rintro ⟨environment, platform, missing, h⟩
    obtain ⟨sel, hsel, hm, -⟩ := (outcomeAs_locked_eq_error_iff s w q).mp h
    obtain ⟨n, hn⟩ := List.exists_mem_of_ne_nil _ hm
    have hreaches := (Workspace.reaches_iff s w).mpr ⟨sel, hsel, rfl, rfl, rfl⟩
    exact ⟨_, _, _, hreaches, n, (mem_missing_iff s w q hsel).mp hn⟩
  · rintro ⟨e, platform, records, hreaches, n, hn⟩
    obtain ⟨sel, hsel, rfl, rfl, rfl⟩ := (Workspace.reaches_iff s w).mp hreaches
    have hm : sel.missing ≠ [] := List.ne_nil_of_mem ((mem_missing_iff s w q hsel).mpr hn)
    exact ⟨_, _, _, (outcomeAs_locked_eq_error_iff s w q).mpr ⟨sel, hsel, hm, rfl, rfl, rfl⟩⟩

/-- The refusal names the declared names that are not locked, sorted and each once. -/
theorem missing_of_locked_refused {environment platform : String} {missing : List String}
    (h : outcomeAs s w q .locked =
      .error (.diagnosed (.lockOutdated environment platform missing))) :
    ∃ e records, e.name = environment ∧ Workspace.Reaches s w q e platform records ∧
      missing.Pairwise (· < ·) ∧ ∀ n, n ∈ missing ↔ Unlocked w e platform records n := by
  obtain ⟨sel, hsel, -, rfl, rfl, rfl⟩ := (outcomeAs_locked_eq_error_iff s w q).mp h
  obtain ⟨-, -, -, -, -, hexplicit⟩ := (Workspace.select_eq_ok_iff s w q sel).mp hsel
  have hreaches := (Workspace.reaches_iff s w).mpr ⟨sel, hsel, rfl, rfl, rfl⟩
  have hnodup : sel.explicit.Nodup := by
    rw [hexplicit]
    exact Manifest.nodup_distinct _
  exact ⟨sel.environment, sel.records, rfl, hreaches, pairwise_missingNames hnodup sel.records,
    fun n => mem_missing_iff s w q hsel⟩

theorem locked_eq_frozen (h : NotOutdated (outcomeAs s w q .locked)) :
    outcomeAs s w q .locked = outcomeAs s w q .frozen := by
  rw [outcomeAs_eq_of_ne_locked s w q (by decide : LockUsage.frozen ≠ .locked), outcomeAs_eq]
  cases hsel : (Workspace.select s q).outcome w with
  | error e => rfl
  | ok sel =>
    have hm : sel.missing = [] := by
      by_contra hm
      exact h _ _ _ ((outcomeAs_locked_eq_error_iff s w q).mpr ⟨sel, hsel, hm, rfl, rfl, rfl⟩)
    simp [hm]

/-- Looking away and warning have the same outcome. A listing that wants the lock file to be up to
date is refused exactly if a declared name is not locked, and names those that are not; else it has
the same outcome, too. -/
theorem outcomes_by_usage :
    outcomeAs s w q .update = outcomeAs s w q .frozen ∧
    ((∃ environment platform missing, outcomeAs s w q .locked =
        .error (.diagnosed (.lockOutdated environment platform missing))) ↔
      ∃ e platform records, Workspace.Reaches s w q e platform records ∧
        ∃ n, Unlocked w e platform records n) ∧
    (∀ environment platform missing, outcomeAs s w q .locked =
        .error (.diagnosed (.lockOutdated environment platform missing)) →
      ∃ e records, e.name = environment ∧ Workspace.Reaches s w q e platform records ∧
        missing.Pairwise (· < ·) ∧ ∀ n, n ∈ missing ↔ Unlocked w e platform records n) ∧
    (NotOutdated (outcomeAs s w q .locked) →
      outcomeAs s w q .locked = outcomeAs s w q .frozen) := by
  refine ⟨outcomeAs_update_eq_frozen s w q, locked_refused_iff s w q, ?_, locked_eq_frozen s w q⟩
  exact fun environment platform missing h => missing_of_locked_refused s w q h

end PinLedger

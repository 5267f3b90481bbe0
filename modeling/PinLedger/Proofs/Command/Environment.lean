/-
# The environment of a run is found twice

A run of the command looks its environment up by the name that it was given, and then asks for a
listing by the name that the environment has itself. This works because manifests keep environments
under their own names: whatever the tables and the requirements of a project call their features and
environments, both look-ups find the same environment, and the listing is about it.

Key theorems: `environmentOf_query`, `environments_are_found_again`.
-/
import PinLedger.Proofs.Command.Printing
import PinLedger.Proofs.Manifest.Required

namespace PinLedger.Command

open Document (Value)
open Workspace (lockContent project)

variable {s : Surroundings} {o : ListOptions} {usage : LockUsage} {w : Workspace}
  {e : EnvironmentSpec}

/-- The query of a run names the environment that the run has found. -/
theorem environmentOf_query (h : w.manifest.IsRead)
    (he : w.environmentOf s o.environment = .ok e) :
    w.environmentOf s (o.query e.name usage).environment = .ok e :=
  h.namedByKey.environment_name he

/-- What the query of a run selects is of the environment that the run has found. -/
theorem environment_of_select (h : w.manifest.IsRead)
    (he : w.environmentOf s o.environment = .ok e) {sel : Selection}
    (hsel : (Workspace.select s (o.query e.name usage)).outcome w = .ok sel) :
    sel.environment = e := by
  obtain ⟨-, hfound, -⟩ := (Workspace.select_eq_ok_iff s w _ sel).mp hsel
  exact Except.ok.inj (hfound.symm.trans (environmentOf_query h he))

/-- **Environments are found again by their names.** Whatever is read from a table, and from
features that are made of requirements, keeps the environments and features of both under their own
names, those called `default` first; and an environment that was found by any name is found by its
own. This is so for every manifest that a run of the command opens, so that the listing is about the
environment that was looked up before it. A well-shaped table is read. -/
theorem environments_are_found_again :
    (∀ table extra, (∀ entry ∈ extra, MadeOfRequirements entry) →
      (WellShaped table → ∃ m, Manifest.ofTable table extra = .ok m) ∧
      ∀ m, Manifest.ofTable table extra = .ok m → m.KeepsNames table extra ∧
        (∃ e rest, m.environments = (defaultName, e) :: rest) ∧
        (∃ f rest, m.features = (defaultName, f) :: rest) ∧
        (∀ entry ∈ m.environments, m.environment entry.1 = .ok entry.2) ∧
        ∀ name e, m.environment name = .ok e → m.environment e.name = .ok e) ∧
    (∀ project extra, (Manifest.projectFeatures project).result = .ok extra →
      ∀ entry ∈ extra, MadeOfRequirements entry) ∧
    ∀ s o usage w, Locates s o usage w → w.manifest.IsRead ∧
      ∀ e, w.environmentOf s o.environment = .ok e →
        w.environmentOf s (o.query e.name usage).environment = .ok e ∧
        ∀ sel, (Workspace.select s (o.query e.name usage)).outcome w = .ok sel →
          sel.environment = e := by
  refine ⟨fun table extra hextra => ⟨fun hshaped => ?read, fun m hm => ?kept⟩, fun project extra =>
    madeOfRequirements_projectFeatures, fun s o usage w hw => ?located⟩
  case read => exact ⟨manifestOf table extra, Manifest.ofTable_eq hshaped extra⟩
  case kept =>
    have hkeeps : m.KeepsNames table extra :=
      Manifest.keepsNames_of_ofTable (fun entry hentry => (hextra entry hentry).name_eq) hm
    exact ⟨hkeeps, hkeeps.environments.first, hkeeps.features.first,
      fun entry => hkeeps.environment_of_mem, fun name e => hkeeps.namedByKey.environment_name⟩
  case located =>
    have hread : w.manifest.IsRead := Workspace.isRead_locate hw.2
    refine ⟨hread, fun e he => ⟨environmentOf_query hread he, fun sel hsel => ?_⟩⟩
    exact environment_of_select hread he hsel

/-! ### Tables that use the name `default` themselves -/

/-- Tables that say again what the environment `default` is, and have one without a name. -/
def renewedTables : Value :=
  environmentTables [("docs", ["docs"]), ("default", ["docs"]), ("", [])]

/-- Tables that name `default` again, with features that a project file makes: what is read keeps
its names. In a project that is listed both look-ups find one environment. -/
theorem names_of_renewedTables :
    (∃ extra m e, (Manifest.projectFeatures (tableIn groupedFile "project")).result = .ok extra ∧
      WellShaped renewedTables ∧ Manifest.ofTable renewedTables extra = .ok m ∧
      m.environmentNames = ["default", "docs", ""] ∧ m.features.map (·.1) = ["default", "docs"] ∧
      m.environment "default" = .ok e ∧ e.features = ["docs"] ∧ m.environment e.name = .ok e) ∧
    ∃ usage w e sel, Locates (project lockContent) projectOptions usage w ∧
      w.environmentOf (project lockContent) projectOptions.environment = .ok e ∧
      (Workspace.select (project lockContent) (projectOptions.query e.name usage)).outcome w =
        .ok sel ∧ sel.environment = e := by
  obtain ⟨htables, hproject, hlocated⟩ := environments_are_found_again
  refine ⟨?tables, ?located⟩
  case tables =>
    obtain ⟨extra, hextra⟩ : ∃ extra,
        (Manifest.projectFeatures (tableIn groupedFile "project")).result = .ok extra := ⟨_, rfl⟩
    have hshaped : WellShaped renewedTables := wellShaped_environmentTables (by decide)
    obtain ⟨hread, hkept⟩ := htables renewedTables extra (hproject _ extra hextra)
    obtain ⟨m, hm⟩ := hread hshaped
    obtain ⟨hkeeps, -, -, -, hagain⟩ := hkept m hm
    have hnames : m.environmentNames = ["default", "docs", ""] := hkeeps.environments.keys
    have hfeatures : m.features.map (·.1) = ["default", "docs"] := by
      rw [hkeeps.features.keys]
      obtain rfl := Except.ok.inj hextra
      rfl
    have he : m.environment "default" = .ok ⟨"default", ["docs"], false⟩ := by
      obtain rfl := Except.ok.inj ((Manifest.ofTable_eq hshaped extra).symm.trans hm)
      rfl
    exact ⟨extra, m, _, hextra, hshaped, hm, hnames, hfeatures, he, rfl, hagain _ _ he⟩
  case located =>
    obtain ⟨usage, w, hw, hlist⟩ := lists_project
    obtain ⟨e, he⟩ := environmentOf_of_list hlist
    rw [← environmentOf_name hw he] at hlist
    obtain ⟨sel, -, hsel, -⟩ := list_eq_ok_iff.mp hlist
    obtain ⟨-, hagain⟩ := hlocated _ _ usage w hw
    obtain ⟨-, hselected⟩ := hagain e he
    exact ⟨usage, w, e, sel, hw, he, hsel, hselected sel hsel⟩

end PinLedger.Command

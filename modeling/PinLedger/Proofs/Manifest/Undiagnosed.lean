/-
# Reading a manifest ends in no diagnosis

A manifest that cannot be read breaks the run down, or has faults in its fields. A diagnosis is
made only by whoever looks for the file.

Key definitions: `Undiagnosed`.
Key theorems: `undiagnosed_ofTable`, `undiagnosed_ofProject`, `undiagnosed_readToml`.
-/
import PinLedger.Manifest.File
import PinLedger.Proofs.Manifest.Project

namespace PinLedger

open Document (Value Checked)
open ManifestRead Outcome

/-- A run does not end in a diagnosis. -/
def Undiagnosed {α : Type} (x : Except Failure α) : Prop := ∀ d, x ≠ .error (.diagnosed d)

namespace Undiagnosed

variable {α β : Type}

theorem ok (a : α) : Undiagnosed (.ok a) := nofun

theorem breakdown (b : Breakdown) : Undiagnosed (.error (.breakdown b) : Except Failure α) := nofun

theorem bind {x : Except Failure α} {f : α → Except Failure β} (h : Undiagnosed x)
    (hf : ∀ a, Undiagnosed (f a)) : Undiagnosed (x >>= f) :=
  fun d => bind_ne_error (h d) fun a => hf a d

theorem map {x : Except Failure α} (h : Undiagnosed x) (f : α → β) : Undiagnosed (f <$> x) :=
  fun d hd => h d (map_eq_error_iff.mp hd)

theorem mapM {f : α → Except Failure β} {xs : List α} (hf : ∀ a, Undiagnosed (f a)) :
    Undiagnosed (xs.mapM f) := by
  intro d hd
  obtain ⟨_, x, _, -, -, hx⟩ := mapM_eq_error_iff.mp hd
  exact hf x d hx

theorem traced_bind {r : Traced α} {f : α → Traced β} (h : Undiagnosed r.result)
    (hf : ∀ a, Undiagnosed (f a).result) : Undiagnosed (r >>= f).result := by
  rw [Traced.result_bind]
  exact h.bind hf

theorem asked (a : Value.Asked α) : Undiagnosed (ManifestRead.asked a) := by
  cases a with
  | ok a => exact ok a
  | error b => exact breakdown b

theorem checked (c : Checked α) : Undiagnosed (ManifestRead.checked c) := by
  cases c <;> exact nofun

theorem ofAsked (a : Value.Asked α) : Undiagnosed (Manifest.projectFeatures.ofAsked a).result := by
  unfold Manifest.projectFeatures.ofAsked
  rw [Traced.result_ofExcept]
  exact asked a

end Undiagnosed

open Undiagnosed (traced_bind)

/-! ### Tables of a manifest -/

theorem undiagnosed_namesIn (kind : Kind) (v : Value) : Undiagnosed (namesIn kind v) :=
  (Undiagnosed.asked _).bind fun _ => .mapM fun _ => (Undiagnosed.asked _).bind fun _ => .ok _

theorem undiagnosed_condaNamesIn (table : Value) (keys : List String) :
    Undiagnosed (condaNamesIn table keys) := by
  induction keys with
  | nil => exact .ok _
  | cons key keys ih =>
    exact (Undiagnosed.asked _).bind fun _ => (undiagnosed_namesIn _ _).bind fun _ =>
      ih.bind fun _ => .ok _

theorem undiagnosed_dependencyNames (table : Value) : Undiagnosed (DependencyNames.ofTable table) :=
  (undiagnosed_condaNamesIn _ _).bind fun _ => (Undiagnosed.asked _).bind fun _ =>
    (undiagnosed_namesIn _ _).bind fun _ => .ok _

theorem undiagnosed_targetsOf (entries : List (Value × Value)) :
    Undiagnosed (Feature.targetsOf entries) := by
  induction entries with
  | nil => exact .ok _
  | cons entry entries ih =>
    exact (undiagnosed_dependencyNames _).bind fun _ => ih.bind fun _ => .ok _

theorem undiagnosed_feature (name : String) (table : Value) :
    Undiagnosed (Feature.ofTable name table) :=
  (Undiagnosed.asked _).bind fun _ => (Undiagnosed.asked _).bind fun _ =>
    (undiagnosed_targetsOf _).bind fun _ => (Undiagnosed.asked _).bind fun _ =>
      (undiagnosed_dependencyNames _).bind fun _ => (Undiagnosed.checked _).bind fun _ => .ok _

theorem undiagnosed_environment (name : String) (v : Value) :
    Undiagnosed (EnvironmentSpec.ofValue name v) := by
  unfold EnvironmentSpec.ofValue
  split
  · exact .checked _
  · exact (Undiagnosed.asked _).bind fun _ => (Undiagnosed.asked _).bind fun _ => .checked _

theorem SetsEach.undiagnosed {α : Type} {make : String → Value → ManifestRead α}
    {reader : List (String × α) → List (Value × Value) → ManifestRead (List (String × α))}
    (h : SetsEach make reader) (hmake : ∀ name v, Undiagnosed (make name v))
    (known : List (String × α)) (entries : List (Value × Value)) :
    Undiagnosed (reader known entries) := by
  induction entries generalizing known with
  | nil =>
    rw [h.nil]
    exact .ok _
  | cons entry entries ih =>
    rw [h.cons]
    exact (hmake _ _).bind fun _ => ih _

namespace Manifest

theorem undiagnosed_workspaceOf (table : Value) : Undiagnosed (workspaceOf table) := by
  refine (Undiagnosed.asked _).bind fun workspace => ?_
  cases workspace.truthy with
  | true => exact .ok _
  | false => exact (Undiagnosed.asked _).bind fun _ => .ok _

theorem undiagnosed_ofTable (table : Value) (extra : List (String × Feature)) :
    Undiagnosed (ofTable table extra) :=
  (undiagnosed_workspaceOf _).bind fun _ => (undiagnosed_feature _ _).bind fun _ =>
    (Undiagnosed.asked _).bind fun _ => (Undiagnosed.asked _).bind fun _ =>
      (setsEach_readFeatures.undiagnosed undiagnosed_feature _ _).bind fun _ =>
        (Undiagnosed.asked _).bind fun _ => (Undiagnosed.asked _).bind fun _ =>
          (setsEach_readEnvironments.undiagnosed undiagnosed_environment _ _).bind fun _ =>
            (Undiagnosed.asked _).bind fun _ => (Undiagnosed.asked _).bind fun _ => .checked _

end Manifest

/-! ### Project files -/

theorem undiagnosed_requirementNamesOf (vs : List Value) :
    Undiagnosed (requirementNamesOf vs) := by
  fun_induction requirementNamesOf vs with
  | case1 => exact .ok _
  | case2 s rest ih =>
    refine ih.bind fun more => ?_
    cases Requirement.name? s <;> exact .ok _
  | case3 v rest htext => exact .breakdown _

theorem undiagnosed_tracedNames (v : Value) : Undiagnosed (tracedNames v).result := by
  have hread : Undiagnosed (requirementNames v) :=
    (Undiagnosed.asked _).bind fun _ => undiagnosed_requirementNamesOf _
  unfold tracedNames
  cases hnames : requirementNames v with
  | error e =>
    rw [hnames] at hread
    exact fun d hd => hread d (congrArg Except.error (Except.error.inj hd))
  | ok r =>
    dsimp only
    rw [Traced.result_bind, result_warnings]
    exact .ok _

namespace Manifest

theorem undiagnosed_groupFeatures (entries : List (Value × Value)) :
    Undiagnosed (groupFeatures entries).result := by
  induction entries with
  | nil => exact .ok _
  | cons entry entries ih =>
    exact traced_bind (undiagnosed_tracedNames _) fun _ => traced_bind ih fun _ => .ok _

theorem undiagnosed_projectFeatures (project : Value) :
    Undiagnosed (projectFeatures project).result :=
  traced_bind (.ofAsked _) fun _ => traced_bind (undiagnosed_tracedNames _) fun _ =>
    traced_bind (.ofAsked _) fun _ => traced_bind (.ofAsked _) fun _ =>
      traced_bind (undiagnosed_groupFeatures _) fun _ => .ok _

theorem undiagnosed_projectTable (document project : Value) :
    Undiagnosed (projectTable document project) := by
  refine (Undiagnosed.asked _).bind fun _ => (Undiagnosed.asked _).bind fun _ =>
    (undiagnosed_workspaceOf _).bind fun _ => (Undiagnosed.asked _).bind fun named => ?_
  cases named with
  | true => exact .ok _
  | false =>
    refine (Undiagnosed.asked _).bind fun _ => ?_
    split
    · exact .ok _
    · exact .breakdown _

theorem undiagnosed_ofProject (document : Value) : Undiagnosed (ofProject document).result := by
  unfold ofProject
  refine traced_bind ?_ fun _ => traced_bind (undiagnosed_projectFeatures _) fun _ =>
    traced_bind ?_ fun _ => ?_
  all_goals rw [Traced.result_ofExcept]
  · exact .asked _
  · exact undiagnosed_projectTable _ _
  · exact undiagnosed_ofTable _ _

end Manifest

theorem undiagnosed_readToml (t : FileTree) (path : Path) : Undiagnosed (readToml t path) := by
  unfold readToml
  split
  · exact .breakdown _
  · split
    · exact .breakdown _
    · split
      · exact .breakdown _
      · exact .breakdown _
      · exact .ok _

end PinLedger

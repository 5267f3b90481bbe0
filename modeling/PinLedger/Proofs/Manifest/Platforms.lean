/-
# The platforms of an environment

A feature may be restricted to some platforms. The platforms of an environment are those of the
workspace on which all its features agree, in the order of the workspace. Only the restricted
features matter to this, and neither their order nor how often they are named; and a further feature
can only rule out more.

Key definitions: `Manifest.Restricts`, `Manifest.AgreeOn`.
Key theorems: `environmentPlatforms_eq_filter`, `platforms_are_agreed_on`.
-/
import Mathlib.Data.List.Basic
import PinLedger.Manifest.Basic

namespace PinLedger.Manifest

variable {m : Manifest} {e e' : EnvironmentSpec} {p : String}

/-- The manifest defines a feature of this name and restricts it to these platforms. -/
def Restricts (m : Manifest) (name : String) (platforms : List String) : Prop :=
  ∃ f, m.features.lookup name = some f ∧ f.platforms = some platforms

/-- Every feature of an environment that is restricted to some platforms lists this one. -/
def AgreeOn (m : Manifest) (e : EnvironmentSpec) (p : String) : Prop :=
  ∀ name ∈ e.featureNames, ∀ platforms, m.Restricts name platforms → p ∈ platforms

theorem agreeOn_iff_supports : m.AgreeOn e p ↔ ∀ f ∈ m.featuresOf e, Supports f p := by
  unfold featuresOf
  simp only [List.mem_filterMap]
  constructor
  · rintro h f ⟨name, hname, hf⟩ platforms hplatforms
    exact h name hname platforms ⟨f, hf, hplatforms⟩
  · rintro h name hname platforms ⟨f, hf, hplatforms⟩
    exact h f ⟨name, hname, hf⟩ platforms hplatforms

theorem agreeOn_iff_all : m.AgreeOn e p ↔ ((m.featuresOf e).all (supports · p)) = true := by
  rw [agreeOn_iff_supports, List.all_eq_true]
  simp only [supports_iff]

instance (m : Manifest) (e : EnvironmentSpec) (p : String) : Decidable (m.AgreeOn e p) :=
  decidable_of_iff _ agreeOn_iff_all.symm

/-- Narrowing a list by one feature after the other keeps what all of them are for. -/
theorem foldl_filter_supports (fs : List Feature) (ps : List String) :
    fs.foldl (fun ps f => ps.filter (supports f)) ps =
      ps.filter fun p => fs.all (supports · p) := by
  induction fs generalizing ps with
  | nil => exact (List.filter_eq_self.mpr fun _ _ => rfl).symm
  | cons f fs ih =>
    rw [List.foldl_cons, ih, List.filter_filter]
    exact List.filter_congr fun p _ => Bool.and_comm _ _

theorem environmentPlatforms_eq_filter (m : Manifest) (e : EnvironmentSpec) :
    m.environmentPlatforms e = m.platforms.filter fun p => m.AgreeOn e p := by
  rw [environmentPlatforms, foldl_filter_supports]
  exact List.filter_congr fun p _ => by rw [Bool.eq_iff_iff, decide_eq_true_iff, agreeOn_iff_all]

/-- What more features agree on, fewer agree on. -/
theorem AgreeOn.of_subset (h : m.AgreeOn e' p)
    (hsub : ∀ name platforms, m.Restricts name platforms → name ∈ e.featureNames →
      name ∈ e'.featureNames) : m.AgreeOn e p :=
  fun name hname platforms hrestricts =>
    h name (hsub name platforms hrestricts hname) platforms hrestricts

/-- **The platforms of an environment** are those of the workspace, in their order and as often as
they stand there, on which its restricted features agree. Environments that use the same restricted
features have the same platforms: the order of features, repetitions, and features that are not
defined or not restricted do not matter. An environment with further features has no platforms that
it does not have without them. -/
theorem platforms_are_agreed_on (m : Manifest) (e : EnvironmentSpec) :
    m.environmentPlatforms e = m.platforms.filter (fun p => m.AgreeOn e p) ∧
    (∀ e' : EnvironmentSpec, (∀ name platforms, m.Restricts name platforms →
        (name ∈ e'.featureNames ↔ name ∈ e.featureNames)) →
      m.environmentPlatforms e' = m.environmentPlatforms e) ∧
    ∀ e' : EnvironmentSpec, e.featureNames ⊆ e'.featureNames →
      (m.environmentPlatforms e').Sublist (m.environmentPlatforms e) := by
  simp only [environmentPlatforms_eq_filter]
  refine ⟨trivial, fun e' hsame => ?same, fun e' hsub => ?more⟩
  case same =>
    refine List.filter_congr fun p _ => ?_
    have hagree : m.AgreeOn e' p ↔ m.AgreeOn e p :=
      ⟨fun h => h.of_subset fun name ps hr => (hsame name ps hr).mpr,
        fun h => h.of_subset fun name ps hr => (hsame name ps hr).mp⟩
    rw [decide_eq_decide, hagree]
  case more =>
    refine List.monotone_filter_right m.platforms fun p hp => ?_
    rw [decide_eq_true_iff] at hp ⊢
    exact hp.of_subset fun name _ _ hname => hsub hname

/-- A feature for one platform narrows the environment, and the same feature again changes
nothing. -/
example :
    let m : Manifest := ⟨none, ["linux-64", "osx-64", "linux-64"],
      [("gpu", ⟨"gpu", some ["linux-64"], .empty, []⟩)], []⟩
    m.environmentPlatforms ⟨"test", [], false⟩ = ["linux-64", "osx-64", "linux-64"] ∧
      m.environmentPlatforms ⟨"test", ["gpu", "docs", "gpu"], false⟩ =
        ["linux-64", "linux-64"] := by
  decide

end PinLedger.Manifest

/-
# Manifests

A manifest declares features and environments. A feature is a set of declared dependencies, some
of them only for certain platforms, and may restrict the platforms it is for. An environment is
made of features; the feature `default` belongs to every environment that does not refuse it.

Key definitions: `DependencyNames`, `Feature`, `EnvironmentSpec`, `Manifest`,
`Manifest.environmentPlatforms`, `Manifest.dependencyNames`, `Manifest.requestedSpecs`.
Key theorems: `Manifest.mem_distinct`, `Manifest.nodup_distinct`, `Manifest.distinct_append`.
-/
import PinLedger.Platform

namespace PinLedger

/-- The name of the feature and of the environment that are always there. -/
def defaultName : String := "default"

/-- Canonical names of declared dependencies, in the order they are declared. -/
structure DependencyNames where
  conda : List String
  pypi : List String
deriving DecidableEq, Repr, Inhabited

namespace DependencyNames

/-- No names. -/
def empty : DependencyNames := ⟨[], []⟩

/-- The names of both. -/
def append (a b : DependencyNames) : DependencyNames := ⟨a.conda ++ b.conda, a.pypi ++ b.pypi⟩

/-- The names of all. -/
def concat : List DependencyNames → DependencyNames
  | [] => empty
  | d :: ds => d.append (concat ds)

theorem conda_append (a b : DependencyNames) : (a.append b).conda = a.conda ++ b.conda := rfl

theorem pypi_append (a b : DependencyNames) : (a.append b).pypi = a.pypi ++ b.pypi := rfl

theorem conda_concat (ds : List DependencyNames) : (concat ds).conda = ds.flatMap (·.conda) := by
  induction ds with
  | nil => rfl
  | cons d ds ih => simp [concat, conda_append, ih]

theorem pypi_concat (ds : List DependencyNames) : (concat ds).pypi = ds.flatMap (·.pypi) := by
  induction ds with
  | nil => rfl
  | cons d ds ih => simp [concat, pypi_append, ih]

end DependencyNames

/-- A feature. -/
structure Feature where
  name : String
  /-- The platforms it is for, if it is not for all. -/
  platforms : Option (List String)
  dependencies : DependencyNames
  /-- Dependencies for certain platforms only, by target selector. -/
  targets : List (String × DependencyNames)
deriving DecidableEq, Repr, Inhabited

namespace Feature

/-- The dependencies of the targets that apply to a platform. -/
def targetNames (f : Feature) (platform : String) : List DependencyNames :=
  (f.targets.filter fun t => Platform.selects t.1 platform).map (·.2)

/-- The names that a feature declares for a platform, or for no platform in particular. -/
def dependencyNames (f : Feature) (platform : Option String) : DependencyNames :=
  f.dependencies.append <| match platform with
    | some p => DependencyNames.concat (f.targetNames p)
    | none => DependencyNames.empty

/-- A feature with further dependencies. -/
def addDependencies (f : Feature) (extra : DependencyNames) : Feature :=
  { f with dependencies := f.dependencies.append extra }

end Feature

/-- An environment. -/
structure EnvironmentSpec where
  name : String
  features : List String
  noDefaultFeature : Bool
deriving DecidableEq, Repr, Inhabited

namespace EnvironmentSpec

/-- The names of the features of an environment, the default feature last. -/
def featureNames (e : EnvironmentSpec) : List String :=
  if e.noDefaultFeature then e.features else e.features ++ [defaultName]

/-- Is it the default environment? -/
def isDefault (e : EnvironmentSpec) : Bool := e.name == defaultName

end EnvironmentSpec

/-- A manifest. -/
structure Manifest where
  name : Option String
  platforms : List String
  features : List (String × Feature)
  environments : List (String × EnvironmentSpec)
deriving DecidableEq, Repr, Inhabited

namespace Manifest

/-- The names of the environments, in order. -/
def environmentNames (m : Manifest) : List String := m.environments.map (·.1)

/-- The environment with a name. -/
def environment? (m : Manifest) (name : String) : Option EnvironmentSpec :=
  m.environments.lookup name

/-- The features of an environment that the manifest defines. -/
def featuresOf (m : Manifest) (e : EnvironmentSpec) : List Feature :=
  e.featureNames.filterMap fun name => m.features.lookup name

/-- Is a feature for a platform? -/
def Supports (f : Feature) (platform : String) : Prop :=
  ∀ ps, f.platforms = some ps → platform ∈ ps

/-- Decides whether a feature is for a platform. -/
def supports (f : Feature) (platform : String) : Bool :=
  match f.platforms with
  | some ps => ps.contains platform
  | none => true

theorem supports_iff {f : Feature} {platform : String} :
    supports f platform = true ↔ Supports f platform := by
  unfold supports Supports
  cases h : f.platforms <;> simp

/-- The platforms of the workspace that all features of an environment are for. -/
def environmentPlatforms (m : Manifest) (e : EnvironmentSpec) : List String :=
  (m.featuresOf e).foldl (fun ps f => ps.filter (supports f)) m.platforms

/-- The names that the features of an environment declare, repetitions included. -/
def dependencyNames (m : Manifest) (e : EnvironmentSpec) (platform : Option String) :
    DependencyNames :=
  DependencyNames.concat ((m.featuresOf e).map fun f => f.dependencyNames platform)

/-- Each item once, at its first place. -/
def distinct : List String → List String
  | [] => []
  | s :: ss => s :: (distinct ss).filter (· != s)

theorem mem_distinct {x : String} {xs : List String} : x ∈ distinct xs ↔ x ∈ xs := by
  induction xs with
  | nil => simp [distinct]
  | cons y ys ih =>
    by_cases h : x = y
    · simp [distinct, h]
    · simp [distinct, h, ih]

theorem nodup_distinct (xs : List String) : (distinct xs).Nodup := by
  induction xs with
  | nil => exact List.nodup_nil
  | cons y ys ih =>
    have hout : y ∉ (distinct ys).filter (· != y) := by simp
    exact List.nodup_cons.mpr ⟨hout, List.Pairwise.filter _ ih⟩

/-- What is new in the second list stands behind the first. -/
theorem distinct_append (xs ys : List String) :
    distinct (xs ++ ys) = distinct xs ++ (distinct ys).filter fun y => !xs.contains y := by
  induction xs with
  | nil =>
    have hall : (distinct ys).filter (fun y => !([] : List String).contains y) = distinct ys :=
      List.filter_eq_self.mpr fun _ _ => rfl
    rw [hall]
    rfl
  | cons x xs ih =>
    simp only [List.cons_append, distinct, ih, List.filter_append, List.filter_filter,
      List.contains_cons, Bool.not_or, bne]

/-- The names that an environment declares, conda before pypi, each once. -/
def requestedSpecs (m : Manifest) (e : EnvironmentSpec) (platform : Option String) :
    List String :=
  let names := m.dependencyNames e platform
  distinct (names.conda ++ names.pypi)

end Manifest

end PinLedger

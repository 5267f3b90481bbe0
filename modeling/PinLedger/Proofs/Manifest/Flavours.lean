/-
# The two flavours of manifests agree

The same tables can stand in a manifest file of their own or inside a project file. Then the two
manifests have the same environments and platforms, and every feature of the first is in the second
with the names that the project requires added to its pypi names; groups of optional dependencies
without tables make features that declare nothing else (`Extends`). So both manifests give every
environment the same platforms and the same conda names.

Key definitions: `addedNames`, `Extends`, `ungroupedFile`.
Key theorems: `Extends.environmentPlatforms_eq`, `Extends.conda_dependencyNames_eq`,
`project_file_extends_tables`.
-/
import Mathlib
import PinLedger.Proofs.Files.TextFile
import PinLedger.Proofs.Files.Walk
import PinLedger.Proofs.Manifest.Opening
import PinLedger.Proofs.Manifest.Required

namespace PinLedger

open Document (Value)
open DependencyNames (conda_concat)
open ManifestRead Outcome

/-! ### What a project adds to the features -/

/-- The names that a list of requirements asks for: those of its well-formed ones, in order. -/
def requiredNames (requirements : Option Value) : List String :=
  (requirements.map fun v => canonicalNames (textsOf v)).getD []

/-- The names that a project adds to a feature: those that the project itself requires are for the
feature `default`, and those of a group for the feature of its name. -/
def addedNames (document : Value) (name : String) : List String :=
  requiredNames <|
    if name = defaultName then ownRequirements document else groupRequirements document name

/-- The manifest `b` has what `a` has, and what the project of a document adds. -/
structure Extends (document : Value) (a b : Manifest) : Prop where
  environments : b.environments = a.environments
  platforms : b.platforms = a.platforms
  /-- A feature is kept, with further pypi names behind its own. -/
  feature : ∀ name f, a.features.lookup name = some f → b.features.lookup name =
    some ⟨f.name, f.platforms,
      ⟨f.dependencies.conda, f.dependencies.pypi ++ addedNames document name⟩, f.targets⟩
  /-- Only a group makes another feature, which has the names of the group and nothing else. -/
  group : ∀ name, a.features.lookup name = none → b.features.lookup name =
    (groupRequirements document name).map fun v =>
      ⟨name, none, ⟨[], requiredNames (some v)⟩, []⟩

/-! ### What the additions do not touch -/

namespace Extends

variable {document : Value} {a b : Manifest} (h : Extends document a b)

include h

/-- Every environment has the same platforms. -/
theorem environmentPlatforms_eq (e : EnvironmentSpec) :
    b.environmentPlatforms e = a.environmentPlatforms e := by
  unfold Manifest.environmentPlatforms Manifest.featuresOf
  rw [h.platforms]
  -- The platforms that are left depend on the features before.
  generalize a.platforms = ps
  induction e.featureNames generalizing ps with
  | nil => rfl
  | cons name names ih =>
    simp only [List.filterMap_cons]
    cases ha : a.features.lookup name with
    | some f =>
      rw [h.feature name f ha]
      exact ih _
    | none =>
      rw [h.group name ha]
      cases groupRequirements document name with
      | none => exact ih ps
      | some v =>
        -- A feature that a group makes is for all platforms.
        have hall : ∀ f : Feature, f.platforms = none → ps.filter (Manifest.supports f) = ps :=
          fun f hf => List.filter_eq_self.mpr fun p _ => by simp [Manifest.supports, hf]
        simp only [Option.map_some, List.foldl_cons]
        rw [hall _ rfl]
        exact ih ps

/-- Every environment has the same conda names on every platform. -/
theorem conda_dependencyNames_eq (e : EnvironmentSpec) (platform : Option String) :
    (b.dependencyNames e platform).conda = (a.dependencyNames e platform).conda := by
  unfold Manifest.dependencyNames Manifest.featuresOf
  rw [conda_concat, conda_concat]
  induction e.featureNames with
  | nil => rfl
  | cons name names ih =>
    simp only [List.filterMap_cons]
    cases ha : a.features.lookup name with
    | some f =>
      rw [h.feature name f ha]
      simp only [List.map_cons, List.flatMap_cons, ih]
      rfl
    | none =>
      rw [h.group name ha]
      cases groupRequirements document name with
      | none => exact ih
      | some v =>
        -- A feature that a group makes has no conda names, and no targets either.
        simp only [Option.map_some, List.map_cons, List.flatMap_cons, ih]
        cases platform <;> rfl

end Extends

/-! ### The manifests of both flavours -/

section

variable {document table : Value} (h : ProjectFileShaped document table)
  (hdefault : groupRequirements document defaultName = none)

include h hdefault

/-- What a project adds to a feature is what its own feature of this name declares. -/
theorem lookup_projectFeaturesIn_eq (name : String) :
    (projectFeaturesIn (tableIn document "project")).lookup name =
      if name = defaultName then some (.ofPypiNames name (addedNames document name))
      else (groupRequirements document name).map fun v =>
        .ofPypiNames name (requiredNames (some v)) := by
  by_cases hname : name = defaultName
  · subst hname
    rw [if_pos rfl, lookup_default_projectFeaturesIn h hdefault, addedNames, if_pos rfl]
    unfold ownRequirements
    rw [← get?_tableIn, requirementsIn]
    -- A missing list is taken for an empty one, which requires nothing.
    cases (tableIn document "project").get? "dependencies" <;> rfl
  · rw [if_neg hname, lookup_projectFeaturesIn h.projectShaped, if_neg hname, Option.or_none,
      groupRequirements_eq]
    rfl

theorem extends_projectManifest :
    Extends document (manifestOf table []) (projectManifest document table) where
  environments := rfl
  platforms := rfl
  feature := fun name f hf => by
    change (featuresIn table).lookup name = some f at hf
    rw [lookup_features_projectManifest, hf, lookup_projectFeaturesIn_eq h hdefault]
    by_cases hname : name = defaultName
    · rw [if_pos hname]
      simp [joined, Feature.addDependencies, DependencyNames.append, Feature.ofPypiNames]
    · rw [if_neg hname, addedNames, if_neg hname]
      cases groupRequirements document name <;>
        simp [joined, Feature.addDependencies, DependencyNames.append, Feature.ofPypiNames,
          requiredNames]
  group := fun name hnone => by
    change (featuresIn table).lookup name = none at hnone
    have hname : name ≠ defaultName := by
      rintro rfl
      have hfeature : TableOf FeatureShaped (tableIn table "feature") :=
        h.shaped.features.tableOf_getD
      rw [featuresIn, lookup_putFields _ _ hfeature.nodup] at hnone
      simp at hnone
    rw [lookup_features_projectManifest, hnone, lookup_projectFeaturesIn_eq h hdefault,
      if_neg hname]
    cases groupRequirements document name <;> rfl

end

theorem isInProject_eq {document table : Value} (h : ProjectFileShaped document table) :
    Manifest.isInProject document = .ok true := by
  obtain ⟨tool, htool, hpixi⟩ := Option.bind_eq_some_iff.mp h.manifest
  obtain ⟨fields, rfl, -, -⟩ := h.tool tool htool
  have hholds : (Value.ofFields fields).holds "pixi" = .ok true := by
    change Except.ok ((Value.ofFields fields).get? "pixi").isSome = _
    rw [hpixi]
    rfl
  unfold Manifest.isInProject
  rw [h.top.ask_eq, htool]
  exact congrArg asked hholds

/-- A project file without groups. -/
def ungroupedFile (own : List String) (environments : List (String × List String)) : Value :=
  .ofFields [("project", .ofFields [("dependencies", listOfTexts own)]),
    ("tool", .ofFields [("pixi", environmentTables environments)])]

theorem projectFileShaped_ungroupedFile (own : List String)
    {environments : List (String × List String)} (h : (environments.map (·.1)).Nodup) :
    ProjectFileShaped (ungroupedFile own environments) (environmentTables environments) := by
  have hproject : ProjectShaped (.ofFields [("dependencies", listOfTexts own)]) := {
    table := tableOf_anything (by simp)
    dependencies := Optionally.of_fields <| by simpa using ⟨own, rfl⟩
    groups := Optionally.of_fields <| by simp
    name := Optionally.of_fields <| by simp }
  exact projectFileShaped_ofFields hproject h

/-- A manifest file. -/
def ownText : String := "environments.docs=[\"docs\"]\n"

/-- A project file with the tables of the manifest file. -/
def projectText : String :=
  "project.dependencies=[\"Requests\"]\ntool.pixi.environments.docs=[\"docs\"]\n"

/-- A directory with both files. -/
def bothFiles : FileTree :=
  ⟨.dir [("pixi.toml", .file (.ofText ownText)), ("pyproject.toml", .file (.ofText projectText))],
    []⟩

/-- The tables of both files. -/
def bothTables : Value := environmentTables [("docs", ["docs"])]

/-- The document of the project file. -/
def bothDocument : Value := ungroupedFile ["Requests"] [("docs", ["docs"])]

theorem readToml_own_bothFiles :
    readToml bothFiles (ManifestFile.pathIn ⟨.top, []⟩ .own) = .ok bothTables :=
  readToml_of_text (FileTree.find_top_file rfl (by decide) (by decide) rfl)
    (by unfold ownText; cbv)

theorem readToml_project_bothFiles :
    readToml bothFiles (ManifestFile.pathIn ⟨.top, []⟩ .project) = .ok bothDocument :=
  readToml_of_text (FileTree.find_top_file rfl (by decide) (by decide) rfl)
    (by unfold projectText; cbv)

end PinLedger

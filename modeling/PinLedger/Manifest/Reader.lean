/-
# Reading a manifest

A manifest is written as tables of its own, or as `[tool.pixi]` in a project file. The top tables
describe the feature `default`. In a project file the `[project]` dependencies are added to it, and
every group of optional dependencies is added to the feature of its name.

Key definitions: `Manifest.ofTable`, `Manifest.ofProject`, `requirementNames`.
-/
import PinLedger.Document.Shape
import PinLedger.Manifest.Basic
import PinLedger.Name
import PinLedger.Requirement

namespace PinLedger

open Document (Value Checked Fields putField)

/-- The tables whose keys are conda names. -/
def condaTables : List String := ["dependencies", "host-dependencies", "build-dependencies"]

/-- The table whose keys are pypi names. -/
def pypiTable : String := "pypi-dependencies"

/-- What reading a part of a manifest gives. -/
abbrev ManifestRead := Except Failure

namespace ManifestRead

/-- A question to a value. -/
def asked {α : Type} (a : Value.Asked α) : ManifestRead α := a.mapError .breakdown

/-- A reading of a value. -/
def checked {α : Type} (c : Checked α) : ManifestRead α := c.mapError .faults

end ManifestRead

open ManifestRead

/-- The canonical names that a table of dependencies declares. -/
def namesIn (kind : Kind) (v : Value) : ManifestRead (List String) := do
  (← asked v.members).mapM fun name => do
    return kind.canonical (← asked name.word)

/-- The names that the conda tables of a table declare. -/
def condaNamesIn (table : Value) : List String → ManifestRead (List String)
  | [] => return []
  | key :: keys => do
    let names ← namesIn .conda (← asked (table.ask key (.table [])))
    return names ++ (← condaNamesIn table keys)

namespace DependencyNames

/-- The names that the dependency tables of a table declare. -/
def ofTable (table : Value) : ManifestRead DependencyNames := do
  let conda ← condaNamesIn table condaTables
  let pypi ← namesIn .pypi (← asked (table.ask pypiTable (.table [])))
  return ⟨conda, pypi⟩

end DependencyNames

/-- The key of an entry as a text. -/
def keyName (key : Value) : String := key.display

namespace Feature

/-- The dependencies of each target. -/
def targetsOf : List (Value × Value) → ManifestRead (List (String × DependencyNames))
  | [] => return []
  | (selector, table) :: rest => do
    let names ← DependencyNames.ofTable table
    return (keyName selector, names) :: (← targetsOf rest)

/-- Reads the tables of a feature. -/
def ofTable (name : String) (table : Value) : ManifestRead Feature := do
  let targets ← targetsOf (← asked (← asked (table.ask "target" (.table []))).entries)
  let platforms ← asked (table.ask "platforms" .null)
  let dependencies ← DependencyNames.ofTable table
  let platforms ← checked <| Checked.within (.field "platforms") <|
    Value.asOptional (Value.asListOf Value.asText) platforms
  return ⟨name, platforms, dependencies, targets⟩

/-- A feature that declares nothing but pypi names. -/
def ofPypiNames (name : String) (names : List String) : Feature := ⟨name, none, ⟨[], names⟩, []⟩

end Feature

namespace EnvironmentSpec

/-- Reads the fields of an environment. -/
def check (name : String) (features noDefaultFeature : Value) : Checked EnvironmentSpec :=
  .apply (.apply (.ok fun fs b => ⟨name, fs, b⟩)
    (Checked.within (.field "features") (Value.asListOf Value.asText features)))
    (Checked.within (.field "no_default_feature") (Value.asBool noDefaultFeature))

/-- Reads an environment: a list of features, or a table with such a list. -/
def ofValue (name : String) (v : Value) : ManifestRead EnvironmentSpec :=
  match v with
  | .list _ => checked (check name v (.bool false))
  | _ => do
    let features ← asked (v.ask "features" (.list []))
    let noDefault ← asked (v.ask "no-default-feature" (.bool false))
    checked (check name features noDefault)

/-- The environment that is always there. -/
def default : EnvironmentSpec := ⟨defaultName, [], false⟩

end EnvironmentSpec

namespace Manifest

/-- Reads the `[feature.*]` tables into the features known so far. -/
def readFeatures (features : List (String × Feature)) :
    List (Value × Value) → ManifestRead (List (String × Feature))
  | [] => return features
  | (key, table) :: rest => do
    let name := keyName key
    let feature ← Feature.ofTable name table
    readFeatures (putField features name feature) rest

/-- Reads the `[environments]` table into the environments known so far. -/
def readEnvironments (environments : List (String × EnvironmentSpec)) :
    List (Value × Value) → ManifestRead (List (String × EnvironmentSpec))
  | [] => return environments
  | (key, v) :: rest => do
    let name := keyName key
    let environment ← EnvironmentSpec.ofValue name v
    readEnvironments (putField environments name environment) rest

/-- Adds the dependencies of a feature to the feature of its name, if there is one. -/
def mergeFeature (features : List (String × Feature)) (name : String) (extra : Feature) :
    List (String × Feature) :=
  putField features name <| match features.lookup name with
    | some feature => feature.addDependencies extra.dependencies
    | none => extra

/-- The table that describes the workspace. -/
def workspaceOf (table : Value) : ManifestRead Value := do
  let workspace ← asked (table.ask "workspace" .null)
  if workspace.truthy then
    return workspace
  return Value.orElse (← asked (table.ask "project" .null)) (.table [])

/-- Reads a manifest from its tables, with features from elsewhere. -/
def ofTable (table : Value) (extra : List (String × Feature)) : ManifestRead Manifest := do
  let workspace ← workspaceOf table
  let base ← Feature.ofTable defaultName table
  let features ← readFeatures [(defaultName, base)]
    (← asked (← asked (table.ask "feature" (.table []))).entries)
  let features := extra.foldl (fun fs e => mergeFeature fs e.1 e.2) features
  let environments ← readEnvironments [(defaultName, EnvironmentSpec.default)]
    (← asked (← asked (table.ask "environments" (.table []))).entries)
  let name ← asked (workspace.ask "name" .null)
  let platforms ← asked (workspace.ask "platforms" (.list []))
  checked <| .apply (.apply (.ok fun n ps => ⟨n, ps, features, environments⟩)
    (Checked.within (.field "name") (Value.asOptional Value.asText name)))
    (Checked.within (.field "platforms") (Value.asListOf Value.asText platforms))

end Manifest

/-! ### Project files -/

/-- What a list of requirements gives: names, and the requirements that are not well-formed. -/
structure RequirementNames where
  names : List String
  ignored : List String
deriving DecidableEq, Repr

/-- The canonical names of some requirements. Those that are not well-formed are left out. -/
def requirementNamesOf : List Value → ManifestRead RequirementNames
  | [] => return ⟨[], []⟩
  | .text s :: rest => do
    let more ← requirementNamesOf rest
    match Requirement.name? s with
    | some name => return { more with names := Name.pypi name :: more.names }
    | none => return { more with ignored := s :: more.ignored }
  | _ :: _ => throw (.breakdown .wrongType)

/-- The canonical names of the members of a value, taken as requirements. -/
def requirementNames (v : Value) : ManifestRead RequirementNames := do
  requirementNamesOf (← asked v.members)

/-- The note about a requirement that is not well-formed. -/
def ignoredNote (requirement : String) : String :=
  "ignoring invalid requirement " ++ Text.quoted requirement ++ ": " ++ foreignText

/-- The names of some requirements, with a warning for each that is left out. -/
def tracedNames (v : Value) : Traced (List String) :=
  match requirementNames v with
  | .error e => throw e
  | .ok r => do
    for s in r.ignored do
      Traced.note .warning (ignoredNote s)
    return r.names

namespace Manifest

/-- The features that groups of optional dependencies make. -/
def groupFeatures : List (Value × Value) → Traced (List (String × Feature))
  | [] => return []
  | (key, requirements) :: rest => do
    let name := keyName key
    let names ← tracedNames requirements
    return (name, Feature.ofPypiNames name names) :: (← groupFeatures rest)

/-- The features that the `[project]` table makes. A group called `default` takes the place of the
dependencies of the project itself. -/
def projectFeatures (project : Value) : Traced (List (String × Feature)) := do
  let dependencies ← ofAsked (project.ask "dependencies" (.list []))
  let names ← tracedNames dependencies
  let groups ← ofAsked (project.ask "optional-dependencies" (.table []))
  let features ← groupFeatures (← ofAsked groups.entries)
  return features.foldl (fun fs f => putField fs f.1 f.2)
    [(defaultName, Feature.ofPypiNames defaultName names)]
where
  /-- A question to a value as a traced run. -/
  ofAsked {α : Type} (a : Value.Asked α) : Traced α := ofExcept (a.mapError .breakdown)

/-- The tables of a manifest inside a project file. A workspace without a name is called like the
project. -/
def projectTable (document project : Value) : ManifestRead Value := do
  let tool ← asked (document.part "tool")
  let table ← asked (tool.part "pixi")
  let workspace ← workspaceOf table
  if ← asked (workspace.holds "name") then
    return table
  let name ← asked (project.ask "name" .null)
  match table, workspace with
  | .table es, .table ws =>
    return .table (Document.putEntry es (.text "workspace")
      (.table (Document.putEntry ws (.text "name") name)))
  | _, _ => throw (.breakdown .wrongType)

/-- Does a project file hold a manifest? -/
def isInProject (document : Value) : ManifestRead Bool := do
  let tool ← asked (document.ask "tool" (.table []))
  asked (tool.holds "pixi")

/-- The environment with a name; that there is none is reported with those there are. -/
def environment (m : Manifest) (name : String) : Except Failure EnvironmentSpec :=
  match m.environment? name with
  | some e => .ok e
  | none => .error (.diagnosed (.environmentUnknown name m.environmentNames))

/-- Reads a manifest from a project file. -/
def ofProject (document : Value) : Traced Manifest := do
  let project ← ofExcept (asked (document.ask "project" (.table [])))
  let features ← projectFeatures project
  let table ← ofExcept (projectTable document project)
  ofExcept (ofTable table features)

end Manifest

end PinLedger

/-
# What is read from a well-shaped project file

A project file holds a manifest and the `[project]` table beside it. The table gives features: the
dependencies of the project make one called `default`, each group of optional dependencies one of
its own name, and a group called `default` takes the place of the project's dependencies. What is
no requirement is left out. The features are merged into those of the manifest, and a workspace
without a name is called like the project.

Key definitions: `canonicalNames`, `ProjectShaped`, `ProjectFileShaped`, `projectFeaturesIn`,
`projectManifest`.
Key theorems: `result_tracedNames`, `lookup_projectFeaturesIn`, `map_fst_putField`,
`lookup_mergeFeatures`, `result_ofProject`.
-/
import PinLedger.Proofs.Manifest.Tables

namespace PinLedger

open Document (Value putField putEntry lookup_putField)
open ManifestRead Outcome

/-! ### Lists of requirements -/

/-- The canonical names of the requirements that are well-formed. -/
def canonicalNames (requirements : List String) : List String :=
  requirements.filterMap fun s => (Requirement.name? s).map Name.pypi

theorem mem_canonicalNames_iff {requirements : List String} {n : String} :
    n ∈ canonicalNames requirements ↔
      ∃ s ∈ requirements, ∃ name, Requirement.name? s = some name ∧ Name.pypi name = n := by
  simp only [canonicalNames, List.mem_filterMap, Option.map_eq_some_iff]

/-- Every list of requirements is read. -/
theorem requirementNamesOf_texts (requirements : List String) :
    ∃ ignored, requirementNamesOf (requirements.map .text) =
      .ok ⟨canonicalNames requirements, ignored⟩ := by
  induction requirements with
  | nil => exact ⟨[], rfl⟩
  | cons s rest ih =>
    obtain ⟨ignored, hread⟩ := ih
    have hnames : canonicalNames (s :: rest) =
        ((Requirement.name? s).map Name.pypi).toList ++ canonicalNames rest := by
      unfold canonicalNames
      cases hname : Requirement.name? s <;> simp [hname]
    rw [List.map_cons, requirementNamesOf, hread, hnames]
    cases Requirement.name? s with
    | some name => exact ⟨ignored, rfl⟩
    | none => exact ⟨s :: ignored, rfl⟩

/-- The warnings about requirements that are left out change nothing. -/
theorem result_warnings (ignored : List String) :
    (forIn ignored PUnit.unit fun s _ => do
      Traced.note .warning (ignoredNote s)
      return .yield PUnit.unit : Traced PUnit).result = .ok PUnit.unit := by
  induction ignored with
  | nil => rfl
  | cons s rest ih =>
    rw [List.forIn_cons, Traced.result_bind]
    exact ih

theorem result_tracedNames {v : Value} (h : TextList v) :
    (tracedNames v).result = .ok (canonicalNames (textsOf v)) := by
  obtain ⟨ss, rfl⟩ := h
  have htexts : textsOf (.list (ss.map .text)) = ss := by
    simp [textsOf, List.filterMap_map]
  have hmembers : requirementNames (.list (ss.map .text)) =
      requirementNamesOf (ss.map .text) := rfl
  obtain ⟨ignored, hread⟩ := requirementNamesOf_texts ss
  rw [htexts]
  unfold tracedNames
  rw [hmembers, hread]
  dsimp only
  rw [Traced.result_bind, result_warnings]
  rfl

/-! ### The features of a project -/

/-- A `[project]` table whose parts have the types their readers ask for. -/
structure ProjectShaped (project : Value) : Prop where
  table : TableOf Anything project
  dependencies : Optionally project "dependencies" TextList
  groups : Optionally project "optional-dependencies" (TableOf TextList)
  name : Optionally project "name" fun x => ∃ s, x = .text s

/-- A `[project]` table that is missing is taken for an empty one. -/
theorem ProjectShaped.empty : ProjectShaped (.table []) where
  table := TableOf.empty Anything
  dependencies := fun x hx => by simp [Value.get?] at hx
  groups := fun x hx => by simp [Value.get?] at hx
  name := fun x hx => by simp [Value.get?] at hx

/-- The list of a name, empty if it is missing. -/
def requirementsIn (v : Value) (name : String) : Value := (v.get? name).getD (.list [])

theorem textList_requirementsIn {v : Value} {name : String} (h : Optionally v name TextList) :
    TextList (requirementsIn v name) := by
  unfold requirementsIn
  cases hv : v.get? name with
  | none => exact ⟨[], rfl⟩
  | some x => exact h x hv

/-- The feature that a list of requirements makes. -/
def requiredFeature (name : String) (requirements : Value) : Feature :=
  .ofPypiNames name (canonicalNames (textsOf requirements))

/-- The features that a `[project]` table makes. -/
def projectFeaturesIn (project : Value) : List (String × Feature) :=
  putFields requiredFeature
    [(defaultName, requiredFeature defaultName (requirementsIn project "dependencies"))]
    (fieldsOf (tableIn project "optional-dependencies"))

theorem result_groupFeatures {fields : List (String × Value)} (h : ∀ f ∈ fields, TextList f.2) :
    (Manifest.groupFeatures (fields.map fun f => (.text f.1, f.2))).result =
      .ok (fields.map fun f => (f.1, requiredFeature f.1 f.2)) := by
  induction fields with
  | nil => rfl
  | cons f fields ih =>
    obtain ⟨hf, hfields⟩ := List.forall_mem_cons.mp h
    simp only [List.map_cons, Manifest.groupFeatures, Traced.result_bind, result_tracedNames hf,
      ih hfields, ok_bind]
    rfl

/-- The features of a project are read. -/
theorem result_projectFeatures {project : Value} (h : ProjectShaped project) :
    (Manifest.projectFeatures project).result = .ok (projectFeaturesIn project) := by
  have hgroups : TableOf TextList (tableIn project "optional-dependencies") :=
    h.groups.tableOf_getD
  have hasked : ∀ (name : String) (default : Value),
      (Manifest.projectFeatures.ofAsked (project.ask name default)).result =
        .ok ((project.get? name).getD default) := fun name default => by
    rw [h.table.ask_eq]
    rfl
  have hentries : (Manifest.projectFeatures.ofAsked
      (tableIn project "optional-dependencies").entries).result =
        .ok ((fieldsOf (tableIn project "optional-dependencies")).map fun f =>
          (.text f.1, f.2)) := by
    rw [hgroups.entries_eq]
    rfl
  unfold Manifest.projectFeatures
  simp only [Traced.result_bind, hasked, ok_bind]
  rw [show (project.get? "dependencies").getD (.list []) = requirementsIn project "dependencies"
      from rfl,
    show (project.get? "optional-dependencies").getD (.table []) =
      tableIn project "optional-dependencies" from rfl, hentries]
  simp only [ok_bind, result_tracedNames (textList_requirementsIn h.dependencies),
    result_groupFeatures fun f hf => hgroups.value hf, Traced.result_pure]
  exact congrArg Except.ok (List.foldl_map ..)

/-- The feature of a group is made of its requirements. Only where no group is called `default` are
the project's own requirements those of the feature `default`. -/
theorem lookup_projectFeaturesIn {project : Value} (h : ProjectShaped project) (name : String) :
    (projectFeaturesIn project).lookup name =
      (((tableIn project "optional-dependencies").get? name).map (requiredFeature name)).or
        (if name = defaultName then
          some (requiredFeature defaultName (requirementsIn project "dependencies"))
        else none) := by
  have hgroups : TableOf TextList (tableIn project "optional-dependencies") :=
    h.groups.tableOf_getD
  unfold projectFeaturesIn
  rw [lookup_putFields _ _ hgroups.nodup, hgroups.get?_eq]
  by_cases hname : name = defaultName
  · simp [hname]
  · have hne : (name == defaultName) = false := by simpa using hname
    simp [List.lookup_cons, hne, hname]

/-! ### Merging features -/

theorem map_fst_map_set {α : Type} (fields : List (String × α)) (name : String) (a : α) :
    (fields.map fun f => if f.1 == name then (f.1, a) else f).map (·.1) =
      fields.map (·.1) := by
  rw [List.map_map]
  refine List.map_congr_left fun f _ => ?_
  simp only [Function.comp]
  split <;> rfl

/-- A name that is set comes behind the others, unless it is there. -/
theorem map_fst_putField {α : Type} (fields : List (String × α)) (name : String) (a : α) :
    (putField fields name a).map (·.1) =
      if name ∈ fields.map (·.1) then fields.map (·.1) else fields.map (·.1) ++ [name] := by
  have hthere : (fields.any fun f => f.1 == name) = true ↔ name ∈ fields.map (·.1) := by
    simp only [List.any_eq_true, List.mem_map, beq_iff_eq]
  unfold putField
  by_cases hname : name ∈ fields.map (·.1)
  · rw [if_pos (hthere.mpr hname), if_pos hname, map_fst_map_set]
  · rw [if_neg (mt hthere.mp hname), if_neg hname, List.map_append]
    rfl

theorem nodup_putField {α : Type} {fields : List (String × α)}
    (h : (fields.map (·.1)).Nodup) (name : String) (a : α) :
    ((putField fields name a).map (·.1)).Nodup := by
  rw [map_fst_putField]
  split
  · exact h
  · next hname =>
    rw [← List.concat_eq_append]
    exact h.concat hname

theorem nodup_putFields {α : Type} (make : String → Value → α) {known : List (String × α)}
    (h : (known.map (·.1)).Nodup) (fields : List (String × Value)) :
    ((putFields make known fields).map (·.1)).Nodup := by
  unfold putFields
  induction fields generalizing known with
  | nil => exact h
  | cons f fields ih => exact ih (nodup_putField h f.1 _)

theorem nodup_projectFeaturesIn (project : Value) :
    ((projectFeaturesIn project).map (·.1)).Nodup :=
  nodup_putFields requiredFeature (by simp) _

/-- A feature with further dependencies of another one, if there is one. -/
def joined (feature : Option Feature) (extra : Option Feature) : Option Feature :=
  match feature, extra with
  | some f, some x => some (f.addDependencies x.dependencies)
  | none, some x => some x
  | feature, none => feature

theorem lookup_mergeFeature (features : List (String × Feature)) (key : String) (extra : Feature)
    (name : String) : (Manifest.mergeFeature features key extra).lookup name =
      if name = key then joined (features.lookup name) (some extra) else features.lookup name := by
  unfold Manifest.mergeFeature
  rw [lookup_putField]
  split
  · next h =>
    subst h
    cases features.lookup name <;> rfl
  · rfl

/-- Features with distinct names are each merged into the feature of their name. -/
theorem lookup_mergeFeatures (features : List (String × Feature))
    {extra : List (String × Feature)} (h : (extra.map (·.1)).Nodup) (name : String) :
    (extra.foldl (fun fs e => Manifest.mergeFeature fs e.1 e.2) features).lookup name =
      joined (features.lookup name) (extra.lookup name) := by
  induction extra generalizing features with
  | nil => cases hf : features.lookup name <;> simp [hf, joined]
  | cons e extra ih =>
    obtain ⟨key, x⟩ := e
    simp only [List.map_cons, List.nodup_cons] at h
    rw [List.foldl_cons, ih _ h.2, lookup_mergeFeature]
    by_cases hk : name = key
    · subst hk
      rw [if_pos rfl, lookup_eq_none_of_not_mem h.1, List.lookup_cons_self]
      cases features.lookup name <;> rfl
    · have hne : (name == key) = false := by simpa using hk
      rw [if_neg hk, List.lookup_cons, hne]

/-! ### The tables inside a project file -/

theorem TableOf.part_eq {P : Value → Prop} {v : Value} (h : TableOf P v) {name : String}
    {x : Value} (hx : v.get? name = some x) : v.part name = .ok x := by
  obtain ⟨fields, rfl, -, -⟩ := h
  simp only [Value.ofFields] at hx ⊢
  simp only [Value.part, hx]

/-- A project file with a manifest whose parts have the types their readers ask for. -/
structure ProjectFileShaped (document table : Value) : Prop where
  top : TableOf Anything document
  tool : Optionally document "tool" (TableOf Anything)
  manifest : ((document.get? "tool").bind (·.get? "pixi")) = some table
  shaped : WellShaped table
  project : Optionally document "project" ProjectShaped

namespace ProjectFileShaped

variable {document table : Value}

theorem projectShaped (h : ProjectFileShaped document table) :
    ProjectShaped (tableIn document "project") := by
  unfold tableIn
  cases hv : document.get? "project" with
  | none => exact ProjectShaped.empty
  | some x => exact h.project x hv

theorem asked_tool (h : ProjectFileShaped document table) :
    ∃ tool, document.part "tool" = .ok tool ∧ tool.part "pixi" = .ok table := by
  obtain ⟨tool, htool, hpixi⟩ := Option.bind_eq_some_iff.mp h.manifest
  exact ⟨tool, h.top.part_eq htool, (h.tool tool htool).part_eq hpixi⟩

end ProjectFileShaped

/-- A table in which a name has another value. -/
def setIn (v : Value) (name : String) (x : Value) : Value :=
  .ofFields (putField (fieldsOf v) name x)

theorem putEntry_ofFields (fields : List (String × Value)) (name : String) (x : Value) :
    .table (putEntry (fields.map fun f => (.text f.1, f.2)) (.text name) x) =
      Value.ofFields (putField fields name x) := by
  have hany : (fields.map fun f => (Value.text f.1, f.2)).any (fun e => e.1.sameKey (.text name)) =
      fields.any fun f => f.1 == name := by
    simp [List.any_map, Function.comp_def]
  unfold putEntry putField Value.ofFields
  rw [hany]
  split
  · simp only [List.map_map, Value.table.injEq]
    refine List.map_congr_left fun f _ => ?_
    simp only [Function.comp, Value.sameKey_text]
    by_cases hf : f.1 = name <;> simp [hf]
  · simp

theorem TableOf.putEntry_eq {P : Value → Prop} {v : Value} (h : TableOf P v)
    {entries : List (Value × Value)} (hv : v = .table entries) (name : String) (x : Value) :
    .table (putEntry entries (.text name) x) = setIn v name x := by
  obtain ⟨fields, hfields, -, -⟩ := h
  obtain rfl := Value.table.inj (hv.symm.trans hfields)
  rw [putEntry_ofFields, setIn, hfields, fieldsOf_ofFields]

section

variable {P : Value → Prop} {v : Value} (h : TableOf P v) (name : String) (x : Value)

include h

theorem get?_setIn (k : String) :
    (setIn v name x).get? k = if k = name then some x else v.get? k := by
  unfold setIn
  rw [Value.get?_ofFields, lookup_putField, h.get?_eq]

theorem tableOf_setIn : TableOf Anything (setIn v name x) :=
  ⟨_, rfl, nodup_putField h.nodup name x, fun _ _ => trivial⟩

/-- What does not look at the name finds the table as it was. -/
theorem get?_setIn_of_ne {k : String} (hk : k ≠ name) : (setIn v name x).get? k = v.get? k := by
  rw [get?_setIn h, if_neg hk]

end

/-- The tables of a manifest inside a project file. -/
def namedTable (table project : Value) : Value :=
  if ((workspaceIn table).get? "name").isSome then table
  else setIn table "workspace"
    (setIn (workspaceIn table) "name" ((project.get? "name").getD .null))

theorem projectTable_eq {document table project : Value} (h : ProjectFileShaped document table)
    (hproject : ProjectShaped project) :
    Manifest.projectTable document project = .ok (namedTable table project) := by
  obtain ⟨tool, htool, hpixi⟩ := h.asked_tool
  have hworkspace := (workspaceShaped_workspaceIn h.shaped).table
  have hholds : (workspaceIn table).holds "name" = .ok ((workspaceIn table).get? "name").isSome := by
    obtain ⟨fields, hfields, -, -⟩ := hworkspace
    rw [hfields]
    rfl
  unfold Manifest.projectTable namedTable
  simp only [htool, hpixi, asked, Except.mapError, ok_bind, Manifest.workspaceOf_eq h.shaped,
    hholds, hproject.table.ask_eq]
  cases ((workspaceIn table).get? "name").isSome with
  | true => rfl
  | false =>
    rw [if_neg Bool.false_ne_true, if_neg Bool.false_ne_true]
    split
    · next hws =>
      rw [← h.shaped.table.putEntry_eq rfl, ← hworkspace.putEntry_eq hws]
      rfl
    · next hnone =>
      obtain ⟨fields, hfields, -, -⟩ := h.shaped.table
      obtain ⟨fields', hfields', -, -⟩ := hworkspace
      exact absurd hfields' (hnone _ _ hfields)

/-! ### The manifest of a project file -/

section

variable {table : Value} (h : WellShaped table) (workspace : Value)

include h

/-- The tables of features are not those of the workspace. -/
theorem featureOf_setIn (name : String) :
    featureOf name (setIn table "workspace" workspace) = featureOf name table := by
  have hget := fun {k} (hk : k ≠ "workspace") => get?_setIn_of_ne h.table "workspace" workspace hk
  have htables : ∀ kind, declaredNames kind (setIn table "workspace" workspace) =
      declaredNames kind table := fun kind => by
    cases kind <;>
      simp [declaredNames, dependencyTables, condaTables, pypiTable, tableIn, hget]
  simp [featureOf, groupNames, targetNamesOf, tableIn, htables, hget]

theorem featuresIn_setIn :
    featuresIn (setIn table "workspace" workspace) = featuresIn table := by
  unfold featuresIn tableIn
  rw [featureOf_setIn h, get?_setIn_of_ne h.table _ _ (by decide)]

theorem environmentsIn_setIn :
    environmentsIn (setIn table "workspace" workspace) = environmentsIn table := by
  unfold environmentsIn tableIn
  rw [get?_setIn_of_ne h.table _ _ (by decide)]

/-- What is shaped apart from the workspace stays so. -/
theorem optionally_setIn {name : String} {P : Value → Prop} (hname : name ≠ "workspace")
    (ho : Optionally table name P) : Optionally (setIn table "workspace" workspace) name P :=
  fun x hx => ho x (by rwa [get?_setIn_of_ne h.table _ _ hname] at hx)

theorem featureShaped_setIn : FeatureShaped (setIn table "workspace" workspace) where
  table := tableOf_setIn h.table _ _
  dependencies := fun kind name hname => by
    refine optionally_setIn h workspace ?_ (h.dependencies kind name hname)
    rintro rfl
    cases kind <;> simp [dependencyTables, condaTables, pypiTable] at hname
  targets := optionally_setIn h workspace (by decide) h.targets
  platforms := optionally_setIn h workspace (by decide) h.platforms

/-- A workspace with entries is the one that counts. -/
theorem workspaceOf_setIn (hworkspace : workspace.truthy = true) :
    Manifest.workspaceOf (setIn table "workspace" workspace) = .ok workspace := by
  have hask : (setIn table "workspace" workspace).ask "workspace" .null = .ok workspace := by
    rw [(tableOf_setIn h.table "workspace" workspace).ask_eq, get?_setIn h.table, if_pos rfl]
    rfl
  unfold Manifest.workspaceOf
  rw [hask]
  change (if workspace.truthy then pure workspace else _ : ManifestRead Value) = _
  rw [if_pos hworkspace]
  rfl

end

theorem truthy_setIn (v : Value) (name : String) (x : Value) : (setIn v name x).truthy = true := by
  have hsome : putField (fieldsOf v) name x ≠ [] := by
    intro hnil
    have hlookup := lookup_putField (fieldsOf v) name x name
    rw [hnil, if_pos rfl] at hlookup
    exact absurd hlookup (by simp)
  simpa [setIn, Value.ofFields, Value.truthy] using hsome

/-- The text of a name, if there is one. -/
def textIn (v : Value) (name : String) : Option String :=
  (v.get? name).bind fun
    | .text s => some s
    | _ => none

theorem asOptional_asText_eq {v : Value} {name : String}
    (h : Optionally v name fun x => ∃ s, x = .text s) :
    Value.asOptional Value.asText ((v.get? name).getD .null) = .ok (textIn v name) := by
  unfold textIn
  cases hv : v.get? name with
  | none => rfl
  | some x =>
    obtain ⟨s, rfl⟩ := h x hv
    rfl

/-- The manifest of a project file: that of its tables, with the features of the project and, where
the workspace has no name, with the name of the project. -/
def projectManifest (document table : Value) : Manifest :=
  let project := tableIn document "project"
  { manifestOf table (projectFeaturesIn project) with
    name := if ((workspaceIn table).get? "name").isSome then textIn (workspaceIn table) "name"
      else textIn project "name" }

theorem ofTable_namedTable {table project : Value} (h : WellShaped table)
    (hproject : ProjectShaped project) (extra : List (String × Feature)) :
    Manifest.ofTable (namedTable table project) extra = .ok { manifestOf table extra with
      name := if ((workspaceIn table).get? "name").isSome then textIn (workspaceIn table) "name"
        else textIn project "name" } := by
  have hw := workspaceShaped_workspaceIn h
  unfold namedTable
  split
  · exact Manifest.ofTable_eq h extra
  · next hname =>
    let workspace := setIn (workspaceIn table) "name" ((project.get? "name").getD .null)
    have hplatforms : Value.asListOf Value.asText
        ((workspace.get? "platforms").getD (.list [])) = .ok (manifestOf table extra).platforms := by
      rw [get?_setIn_of_ne hw.table _ _ (by decide)]
      unfold manifestOf
      cases hv : (workspaceIn table).get? "platforms" with
      | none => rfl
      | some x => exact asListOf_asText_eq (hw.platforms x hv)
    have hprojectName : Value.asOptional Value.asText ((workspace.get? "name").getD .null) =
        .ok (textIn project "name") := by
      rw [get?_setIn hw.table, if_pos rfl]
      exact asOptional_asText_eq hproject.name
    have hread := Manifest.ofTable_eq_of (featureShaped_setIn h workspace)
      (optionally_setIn h workspace (by decide) h.features)
      (optionally_setIn h workspace (by decide) h.environments)
      (workspaceOf_setIn h workspace (truthy_setIn _ _ _)) (tableOf_setIn hw.table _ _)
      hprojectName hplatforms extra
    rw [featuresIn_setIn h, environmentsIn_setIn h] at hread
    exact hread

/-- A well-shaped project file is read. -/
theorem result_ofProject {document table : Value} (h : ProjectFileShaped document table) :
    (Manifest.ofProject document).result = .ok (projectManifest document table) := by
  have hproject := h.projectShaped
  have hasked : asked (document.ask "project" (.table [])) = .ok (tableIn document "project") := by
    rw [h.top.ask_eq]
    rfl
  unfold Manifest.ofProject
  simp only [Traced.result_bind, Traced.result_ofExcept, hasked, ok_bind,
    projectTable_eq h hproject, result_projectFeatures hproject,
    ofTable_namedTable h.shaped hproject]
  rfl

end PinLedger

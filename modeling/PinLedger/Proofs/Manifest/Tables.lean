/-
# What is read from well-shaped tables

Reading a well-shaped manifest cannot fail, and what is read can be told part by part: the names of
a group of dependency tables (`groupNames`), a feature (`featureOf`), an environment
(`environmentOf`), and the whole manifest (`manifestOf`).

Key definitions: `declaredNames`, `featureOf`, `environmentOf`, `SetsEach`, `manifestOf`.
Key theorems: `lookup_putFields`, `Feature.ofTable_eq`, `EnvironmentSpec.ofValue_eq`,
`SetsEach.eq_putFields`, `Manifest.ofTable_eq`.
-/
import PinLedger.Proofs.Manifest.Shape
import PinLedger.Proofs.Outcome

namespace PinLedger

open Document (Value Checked putField lookup_putField)
open ManifestRead Outcome

/-! ### Lists of texts -/

/-- The texts of a list. -/
def textsOf : Value → List String
  | .list items => items.filterMap fun
    | .text s => some s
    | _ => none
  | _ => []

theorem mem_textsOf_iff {v : Value} (h : TextList v) {s : String} :
    s ∈ textsOf v ↔ ∃ items, v = .list items ∧ .text s ∈ items := by
  obtain ⟨ss, rfl⟩ := h
  simp [textsOf, List.filterMap_map]

theorem asListOf_asText_eq {v : Value} (h : TextList v) :
    Value.asListOf Value.asText v = .ok (textsOf v) := by
  obtain ⟨ss, rfl⟩ := h
  have htexts : textsOf (.list (ss.map .text)) = ss := by
    simp [textsOf, List.filterMap_map]
  rw [htexts]
  exact Checked.each_eq_ok_iff.mpr (by simp [Value.asText])

/-! ### Dependency tables -/

/-- The table of a name, empty if it is missing. -/
def tableIn (v : Value) (name : String) : Value := (v.get? name).getD (.table [])

/-- The names of a kind that a group of dependency tables declares, in order. -/
def declaredNames (kind : Kind) (group : Value) : List String :=
  (dependencyTables kind).flatMap fun t => (fieldsOf (tableIn group t)).map fun f =>
    kind.canonical f.1

/-- The names that a group of dependency tables declares. -/
def groupNames (group : Value) : DependencyNames :=
  ⟨declaredNames .conda group, declaredNames .pypi group⟩

theorem namesIn_eq {P : Value → Prop} {v : Value} (h : TableOf P v) (kind : Kind) :
    namesIn kind v = .ok ((fieldsOf v).map fun f => kind.canonical f.1) := by
  unfold namesIn
  rw [h.members_eq]
  refine mapM_eq_ok_iff.mpr ?_
  rw [List.forall₂_map_left_iff, List.forall₂_map_right_iff, List.forall₂_same]
  exact fun _ _ => rfl

theorem condaNamesIn_eq {v : Value} (ht : TableOf Anything v) {names : List String}
    (h : ∀ name ∈ names, Optionally v name (TableOf Anything)) :
    condaNamesIn v names = .ok (names.flatMap fun t => (fieldsOf (tableIn v t)).map fun f =>
      Kind.conda.canonical f.1) := by
  induction names with
  | nil => rfl
  | cons name names ih =>
    have hhead := namesIn_eq (h name (List.mem_cons_self ..)).tableOf_getD .conda
    have htail := ih fun n hn => h n (List.mem_cons_of_mem _ hn)
    simp only [condaNamesIn, ht.ask_eq, asked, Except.mapError, htail]
    simp only [bind, Except.bind, hhead]
    rfl

theorem DependencyNames.ofTable_eq {v : Value} (h : GroupShaped v) :
    DependencyNames.ofTable v = .ok (groupNames v) := by
  have hconda := condaNamesIn_eq h.table (h.dependencies .conda)
  have hpypi := namesIn_eq
    (h.dependencies .pypi pypiTable (by simp [dependencyTables])).tableOf_getD .pypi
  have hnames : declaredNames .pypi v = (fieldsOf (tableIn v pypiTable)).map fun f =>
      Kind.pypi.canonical f.1 := by simp [declaredNames, dependencyTables]
  simp only [DependencyNames.ofTable, h.table.ask_eq, asked, Except.mapError, groupNames, hnames]
  rw [show condaTables = dependencyTables .conda from rfl, hconda]
  simp only [bind, Except.bind, hpypi]
  rfl

/-! ### Features -/

/-- The targets of a feature and the names that they declare. -/
def targetNamesOf (v : Value) : List (String × DependencyNames) :=
  (fieldsOf (tableIn v "target")).map fun f => (f.1, groupNames f.2)

/-- The feature that a table describes. -/
def featureOf (name : String) (v : Value) : Feature where
  name := name
  platforms := (v.get? "platforms").map textsOf
  dependencies := groupNames v
  targets := targetNamesOf v

theorem Feature.targetsOf_eq {fields : List (String × Value)}
    (h : ∀ f ∈ fields, GroupShaped f.2) :
    Feature.targetsOf (fields.map fun f => (.text f.1, f.2)) =
      .ok (fields.map fun f => (f.1, groupNames f.2)) := by
  induction fields with
  | nil => rfl
  | cons f fields ih =>
    have htail := ih fun g hg => h g (List.mem_cons_of_mem _ hg)
    simp only [List.map_cons, Feature.targetsOf, htail,
      DependencyNames.ofTable_eq (h f (List.mem_cons_self ..))]
    rfl

theorem Feature.ofTable_eq {v : Value} (h : FeatureShaped v) (name : String) :
    Feature.ofTable name v = .ok (featureOf name v) := by
  have htarget : TableOf GroupShaped (tableIn v "target") := h.targets.tableOf_getD
  have htargets : Feature.targetsOf ((fieldsOf (tableIn v "target")).map fun f =>
      (.text f.1, f.2)) = .ok (targetNamesOf v) := Feature.targetsOf_eq fun f hf => htarget.value hf
  have hplatforms : checked (Checked.within (.field "platforms")
      (Value.asOptional (Value.asListOf Value.asText) ((v.get? "platforms").getD .null))) =
        .ok ((v.get? "platforms").map textsOf) := by
    cases hp : v.get? "platforms" with
    | none => rfl
    | some x =>
      have hread := asListOf_asText_eq (h.platforms x hp)
      obtain ⟨ss, rfl⟩ := h.platforms x hp
      simp [Value.asOptional, hread, Checked.within, checked, Except.map, Except.mapError]
  simp only [Feature.ofTable, h.table.ask_eq, asked, Except.mapError, bind, Except.bind]
  rw [show (v.get? "target").getD (.table []) = tableIn v "target" from rfl, htarget.entries_eq]
  simp only [htargets, DependencyNames.ofTable_eq h.toGroupShaped, hplatforms]
  rfl

/-! ### Environments -/

/-- The value in which an environment lists its features. -/
def listIn (v : Value) : Value :=
  match v with
  | .list _ => v
  | _ => (v.get? "features").getD (.list [])

/-- Does an environment refuse the default feature? -/
def refusesDefault (v : Value) : Bool :=
  match v.get? "no-default-feature" with
  | some (.bool b) => b
  | _ => false

/-- The environment that a value describes. -/
def environmentOf (name : String) (v : Value) : EnvironmentSpec :=
  ⟨name, textsOf (listIn v), refusesDefault v⟩

theorem textList_listIn {v : Value} (h : EnvironmentShaped v) : TextList (listIn v) := by
  rcases h with ⟨ss, rfl⟩ | ⟨⟨fields, rfl, -, -⟩, hfeatures, -⟩
  · exact ⟨ss, rfl⟩
  · change TextList ((Value.get? (.ofFields fields) "features").getD (.list []))
    cases hv : Value.get? (.ofFields fields) "features" with
    | none => exact ⟨[], rfl⟩
    | some x => exact hfeatures x hv

theorem EnvironmentSpec.ofValue_eq {v : Value} (h : EnvironmentShaped v) (name : String) :
    EnvironmentSpec.ofValue name v = .ok (environmentOf name v) := by
  have hlist := asListOf_asText_eq (textList_listIn h)
  have hcheck : ∀ b : Bool, EnvironmentSpec.check name (listIn v) (.bool b) =
      .ok ⟨name, textsOf (listIn v), b⟩ := fun b => by
    simp [EnvironmentSpec.check, hlist, Value.asBool, Checked.within, Checked.apply]
  rcases h with ⟨ss, rfl⟩ | ⟨⟨fields, rfl, -, -⟩, -, hrefuses⟩
  · exact congrArg checked (hcheck false)
  · have hrefused : (Value.get? (.ofFields fields) "no-default-feature").getD (.bool false) =
        .bool (refusesDefault (.ofFields fields)) := by
      unfold refusesDefault
      cases hv : Value.get? (.ofFields fields) "no-default-feature" with
      | none => rfl
      | some x =>
        obtain ⟨b, rfl⟩ := hrefuses x hv
        rfl
    change checked (EnvironmentSpec.check name (listIn (.ofFields fields))
      ((Value.get? (.ofFields fields) "no-default-feature").getD (.bool false))) = _
    rw [hrefused, hcheck]
    rfl

/-! ### Manifests -/

/-- Sets a value for every field, made of its name and value. -/
def putFields {α : Type} (make : String → Value → α) (known : List (String × α))
    (fields : List (String × Value)) : List (String × α) :=
  fields.foldl (fun acc f => putField acc f.1 (make f.1 f.2)) known

/-- Fields with distinct names come before what was known. -/
theorem lookup_putFields {α : Type} (make : String → Value → α) (known : List (String × α))
    {fields : List (String × Value)} (h : (fields.map (·.1)).Nodup) (name : String) :
    (putFields make known fields).lookup name =
      ((fields.lookup name).map (make name)).or (known.lookup name) := by
  unfold putFields
  induction fields generalizing known with
  | nil => simp
  | cons f fields ih =>
    obtain ⟨key, v⟩ := f
    simp only [List.map_cons, List.nodup_cons] at h
    rw [List.foldl_cons, ih _ h.2, lookup_putField]
    by_cases hk : name = key
    · subst hk
      simp [lookup_eq_none_of_not_mem h.1]
    · have hne : (name == key) = false := by simpa using hk
      simp [List.lookup_cons, hne, hk]

/-- A reader goes through the entries of a table, and sets what is made of each under its name. -/
structure SetsEach {α : Type} (make : String → Value → ManifestRead α)
    (reader : List (String × α) → List (Value × Value) → ManifestRead (List (String × α))) :
    Prop where
  nil : ∀ known, reader known [] = .ok known
  cons : ∀ known key v rest, reader known ((key, v) :: rest) =
    make (keyName key) v >>= fun a => reader (putField known (keyName key) a) rest

theorem Manifest.setsEach_readFeatures : SetsEach Feature.ofTable Manifest.readFeatures :=
  ⟨fun _ => rfl, fun _ _ _ _ => rfl⟩

theorem Manifest.setsEach_readEnvironments :
    SetsEach EnvironmentSpec.ofValue Manifest.readEnvironments :=
  ⟨fun _ => rfl, fun _ _ _ _ => rfl⟩

/-- Where nothing can go wrong with a value, every field is set. -/
theorem SetsEach.eq_putFields {α : Type} {make : String → Value → ManifestRead α}
    {reader : List (String × α) → List (Value × Value) → ManifestRead (List (String × α))}
    (h : SetsEach make reader) {P : Value → Prop} {made : String → Value → α}
    (hmake : ∀ {v}, P v → ∀ name, make name v = .ok (made name v))
    {fields : List (String × Value)} (hfields : ∀ f ∈ fields, P f.2) (known : List (String × α)) :
    reader known (fields.map fun f => (.text f.1, f.2)) = .ok (putFields made known fields) := by
  induction fields generalizing known with
  | nil => exact h.nil known
  | cons f fields ih =>
    obtain ⟨hf, hrest⟩ := List.forall_mem_cons.mp hfields
    have hmade : make (keyName (.text f.1)) f.2 = .ok (made f.1 f.2) := hmake hf f.1
    rw [List.map_cons, h.cons, hmade]
    exact ih hrest _

/-- The table that describes the workspace. -/
def workspaceIn (table : Value) : Value :=
  let workspace := (table.get? "workspace").getD .null
  if workspace.truthy then workspace
  else Value.orElse ((table.get? "project").getD .null) (.table [])

/-- The features that are described in the tables of a manifest. -/
def featuresIn (table : Value) : List (String × Feature) :=
  putFields featureOf [(defaultName, featureOf defaultName table)]
    (fieldsOf (tableIn table "feature"))

/-- The environments that are described in the tables of a manifest. -/
def environmentsIn (table : Value) : List (String × EnvironmentSpec) :=
  putFields environmentOf [(defaultName, EnvironmentSpec.default)]
    (fieldsOf (tableIn table "environments"))

/-- The manifest that tables describe, with features from elsewhere. -/
def manifestOf (table : Value) (extra : List (String × Feature)) : Manifest where
  name := ((workspaceIn table).get? "name").bind fun
    | .text s => some s
    | _ => none
  platforms := (((workspaceIn table).get? "platforms").map textsOf).getD []
  features := extra.foldl (fun fs e => Manifest.mergeFeature fs e.1 e.2) (featuresIn table)
  environments := environmentsIn table

theorem workspaceShaped_workspaceIn {table : Value} (h : WellShaped table) :
    WorkspaceShaped (workspaceIn table) := by
  have hempty : WorkspaceShaped (.table []) :=
    ⟨TableOf.empty Anything, fun x hx => by simp [Value.get?] at hx,
      fun x hx => by simp [Value.get?] at hx⟩
  have hnull : ∀ {name}, Optionally table name WorkspaceShaped →
      ((table.get? name).getD .null).truthy = true →
      WorkspaceShaped ((table.get? name).getD .null) := fun {name} ho ht => by
    cases hv : table.get? name with
    | none => simp [hv, Value.truthy] at ht
    | some x => exact ho x hv
  unfold workspaceIn Value.orElse
  simp only
  split
  · exact hnull h.workspace ‹_›
  · split
    · exact hnull h.project ‹_›
    · exact hempty

theorem Manifest.workspaceOf_eq {table : Value} (h : WellShaped table) :
    Manifest.workspaceOf table = .ok (workspaceIn table) := by
  simp only [Manifest.workspaceOf, workspaceIn, h.table.ask_eq, asked, Except.mapError, bind,
    Except.bind]
  split <;> rfl

/-- The features and environments of a manifest are read whatever its workspace gives. -/
theorem Manifest.ofTable_eq_of {table workspace : Value} (h : FeatureShaped table)
    (hfeatures : Optionally table "feature" (TableOf FeatureShaped))
    (henvironments : Optionally table "environments" (TableOf EnvironmentShaped))
    (hworkspace : Manifest.workspaceOf table = .ok workspace) (ht : TableOf Anything workspace)
    {name : Option String}
    (hname : Value.asOptional Value.asText ((workspace.get? "name").getD .null) = .ok name)
    {platforms : List String}
    (hplatforms : Value.asListOf Value.asText ((workspace.get? "platforms").getD (.list [])) =
      .ok platforms)
    (extra : List (String × Feature)) :
    Manifest.ofTable table extra = .ok ⟨name, platforms,
      extra.foldl (fun fs e => Manifest.mergeFeature fs e.1 e.2) (featuresIn table),
      environmentsIn table⟩ := by
  have hfeature : TableOf FeatureShaped (tableIn table "feature") := hfeatures.tableOf_getD
  have henvironment : TableOf EnvironmentShaped (tableIn table "environments") :=
    henvironments.tableOf_getD
  simp only [Manifest.ofTable, hworkspace, Feature.ofTable_eq h, h.table.ask_eq, ht.ask_eq, asked,
    Except.mapError, bind, Except.bind]
  rw [show (table.get? "feature").getD (.table []) = tableIn table "feature" from rfl,
    show (table.get? "environments").getD (.table []) = tableIn table "environments" from rfl,
    hfeature.entries_eq, henvironment.entries_eq]
  simp only [Manifest.setsEach_readFeatures.eq_putFields Feature.ofTable_eq
      fun f hf => hfeature.value hf,
    Manifest.setsEach_readEnvironments.eq_putFields EnvironmentSpec.ofValue_eq
      fun f hf => henvironment.value hf, hname, hplatforms]
  rfl

/-- A well-shaped manifest is read. -/
theorem Manifest.ofTable_eq {table : Value} (h : WellShaped table)
    (extra : List (String × Feature)) :
    Manifest.ofTable table extra = .ok (manifestOf table extra) := by
  have hw := workspaceShaped_workspaceIn h
  have hname : Value.asOptional Value.asText (((workspaceIn table).get? "name").getD .null) =
      .ok (manifestOf table extra).name := by
    unfold manifestOf
    cases hv : (workspaceIn table).get? "name" with
    | none => rfl
    | some x =>
      obtain ⟨s, rfl⟩ := hw.name x hv
      rfl
  have hplatforms : Value.asListOf Value.asText
      (((workspaceIn table).get? "platforms").getD (.list [])) =
        .ok (manifestOf table extra).platforms := by
    unfold manifestOf
    cases hv : (workspaceIn table).get? "platforms" with
    | none => rfl
    | some x => exact asListOf_asText_eq (hw.platforms x hv)
  exact Manifest.ofTable_eq_of h.toFeatureShaped h.features h.environments
    (Manifest.workspaceOf_eq h) hw.table hname hplatforms extra

end PinLedger

/-
# Manifests keep things under their names

A manifest keeps its features and environments under names, and each of them has a name of its own.
Reading a manifest starts with the things called `default` and sets one after the other under its
own name, and so do the features of a project file; that keeps names and keys the same
(`KeptUnder.put`). So in every manifest that was read a thing has the name it is kept under, each
name is there once, `default` is the first, and an environment can be asked for again by its own
name.

Key definitions: `KeptUnder`, `MadeOfRequirements`, `Manifest.KeepsNames`, `Manifest.IsRead`,
`Manifest.NamedByKey`.
Key theorems: `KeptUnder.put`, `KeptUnder.read`, `KeptUnder.mergeFeatures`,
`madeOfRequirements_projectFeatures`, `Manifest.keepsNames_of_ofTable`, `Workspace.isRead_locate`,
`Workspace.name_of_environmentOf`.
-/
import PinLedger.Proofs.Manifest.Opening
import PinLedger.Proofs.Manifest.Project

namespace PinLedger

open Document (Value Checked putField)
open ManifestRead Outcome

/-! ### Things under their own names -/

/-- Things are kept under their own names: one for each of some names, in the order in which the
names come up first. -/
structure KeptUnder {α : Type} (nameOf : α → String) (names : List String)
    (entries : List (String × α)) : Prop where
  /-- Each of the names is a key, and none twice. -/
  keys : entries.map (·.1) = Manifest.distinct names
  /-- A thing has the name that it is kept under. -/
  named : ∀ entry ∈ entries, nameOf entry.2 = entry.1

theorem mem_putField {α : Type} {entries : List (String × α)} {name : String} {a : α}
    {entry : String × α} (h : entry ∈ putField entries name a) :
    entry = (name, a) ∨ entry ∈ entries := by
  unfold putField at h
  split at h
  · obtain ⟨known, hknown, rfl⟩ := List.mem_map.mp h
    split
    · next hkey => exact .inl (by rw [beq_iff_eq.mp hkey])
    · exact .inr hknown
  · exact (List.mem_append.mp h).elim .inr fun hnew => .inl (List.mem_singleton.mp hnew)

namespace KeptUnder

variable {α : Type} {nameOf : α → String} {names : List String} {entries : List (String × α)}
  {name : String} {a : α}

theorem single (ha : nameOf a = name) : KeptUnder nameOf [name] [(name, a)] where
  keys := rfl
  named := by simpa using ha

theorem put (h : KeptUnder nameOf names entries) (ha : nameOf a = name) :
    KeptUnder nameOf (names ++ [name]) (putField entries name a) where
  keys := by
    rw [map_fst_putField, h.keys, Manifest.distinct_append]
    by_cases hname : name ∈ names <;> simp [hname, Manifest.mem_distinct, Manifest.distinct]
  named entry hentry := by
    rcases mem_putField hentry with rfl | hknown
    · exact ha
    · exact h.named entry hknown

/-- The keys of what a reader goes through are put behind the names that were known. -/
theorem read {make : String → Value → ManifestRead α}
    {reader : List (String × α) → List (Value × Value) → ManifestRead (List (String × α))}
    (hreader : SetsEach make reader)
    (hmake : ∀ {name v a}, make name v = .ok a → nameOf a = name)
    {fields : List (Value × Value)} {found : List (String × α)}
    (h : KeptUnder nameOf names entries) (hread : reader entries fields = .ok found) :
    KeptUnder nameOf (names ++ fields.map (keyName ·.1)) found := by
  induction fields generalizing names entries with
  | nil =>
    rw [hreader.nil] at hread
    obtain rfl := Except.ok.inj hread
    rwa [List.map_nil, List.append_nil]
  | cons field rest ih =>
    obtain ⟨key, v⟩ := field
    rw [hreader.cons] at hread
    obtain ⟨made, hmade, hrest⟩ := bind_eq_ok_iff.mp hread
    have hput := ih (h.put (hmake hmade)) hrest
    rwa [List.append_assoc] at hput

theorem nodup (h : KeptUnder nameOf names entries) : (entries.map (·.1)).Nodup := by
  rw [h.keys]
  exact Manifest.nodup_distinct names

theorem lookup_eq_some_iff (h : KeptUnder nameOf names entries) :
    entries.lookup name = some a ↔ (name, a) ∈ entries :=
  lookup_eq_some_iff_mem h.nodup

theorem name_of_lookup (h : KeptUnder nameOf names entries) (ha : entries.lookup name = some a) :
    nameOf a = name :=
  h.named _ (h.lookup_eq_some_iff.mp ha)

/-- What the first name stands for comes first. -/
theorem first (h : KeptUnder nameOf (name :: names) entries) :
    ∃ a rest, entries = (name, a) :: rest := by
  have hkeys := h.keys
  cases entries with
  | nil => cases hkeys
  | cons entry rest =>
    obtain rfl : entry.1 = name := (List.cons.inj hkeys).1
    exact ⟨entry.2, rest, rfl⟩

end KeptUnder

/-! ### Features -/

theorem Feature.name_of_ofTable {name : String} {table : Value} {f : Feature}
    (h : Feature.ofTable name table = .ok f) : f.name = name := by
  unfold Feature.ofTable at h
  simp only [bind_eq_ok_iff] at h
  obtain ⟨_, -, _, -, _, -, _, -, _, -, _, -, h⟩ := h
  obtain rfl := Except.ok.inj h
  rfl

namespace KeptUnder

variable {names : List String} {features : List (String × Feature)}

/-- Further dependencies leave a feature its name. -/
theorem mergeFeature (h : KeptUnder Feature.name names features) {name : String} {extra : Feature}
    (hextra : extra.name = name) :
    KeptUnder Feature.name (names ++ [name]) (Manifest.mergeFeature features name extra) := by
  unfold Manifest.mergeFeature
  refine h.put ?_
  cases hf : features.lookup name with
  | none => exact hextra
  | some f =>
    have hname : f.name = name := h.name_of_lookup hf
    exact hname

theorem mergeFeatures (h : KeptUnder Feature.name names features)
    {extra : List (String × Feature)} (hextra : ∀ entry ∈ extra, entry.2.name = entry.1) :
    KeptUnder Feature.name (names ++ extra.map (·.1))
      (extra.foldl (fun fs e => Manifest.mergeFeature fs e.1 e.2) features) := by
  induction extra generalizing names features with
  | nil => rwa [List.map_nil, List.append_nil]
  | cons entry rest ih =>
    obtain ⟨hentry, hrest⟩ := List.forall_mem_cons.mp hextra
    have hmerged := ih (h.mergeFeature hentry) hrest
    rwa [List.append_assoc] at hmerged

end KeptUnder

/-- A feature that is made of a list of requirements, and stands under its name. -/
def MadeOfRequirements (entry : String × Feature) : Prop :=
  ∃ requirements names, (tracedNames requirements).result = .ok names ∧
    entry.2 = Feature.ofPypiNames entry.1 names

theorem MadeOfRequirements.name_eq {entry : String × Feature} (h : MadeOfRequirements entry) :
    entry.2.name = entry.1 := by
  obtain ⟨_, _, -, hfeature⟩ := h
  rw [hfeature]
  rfl

theorem madeOfRequirements_groupFeatures {groups : List (Value × Value)}
    {features : List (String × Feature)}
    (h : (Manifest.groupFeatures groups).result = .ok features) :
    ∀ entry ∈ features, MadeOfRequirements entry := by
  induction groups generalizing features with
  | nil =>
    obtain rfl := Except.ok.inj h
    exact List.forall_mem_nil _
  | cons group rest ih =>
    obtain ⟨key, requirements⟩ := group
    simp only [Manifest.groupFeatures, Traced.result_bind, bind_eq_ok_iff] at h
    obtain ⟨names, hnames, more, hmore, h⟩ := h
    obtain rfl := Except.ok.inj h
    exact List.forall_mem_cons.mpr ⟨⟨requirements, names, hnames, rfl⟩, ih hmore⟩

/-- What holds of every entry still does after more such entries are set. -/
theorem forall_mem_putFields {α : Type} {P : String × α → Prop} {entries more : List (String × α)}
    (h : ∀ entry ∈ entries, P entry) (hmore : ∀ entry ∈ more, P entry) :
    ∀ entry ∈ more.foldl (fun known e => putField known e.1 e.2) entries, P entry := by
  induction more generalizing entries with
  | nil => exact h
  | cons e more ih =>
    obtain ⟨he, hmore⟩ := List.forall_mem_cons.mp hmore
    refine ih (fun entry hentry => ?_) hmore
    rcases mem_putField hentry with rfl | hknown
    · exact he
    · exact h entry hknown

/-- The features that a `[project]` table makes are all made of requirements. -/
theorem madeOfRequirements_projectFeatures {project : Value} {features : List (String × Feature)}
    (h : (Manifest.projectFeatures project).result = .ok features) :
    ∀ entry ∈ features, MadeOfRequirements entry := by
  unfold Manifest.projectFeatures at h
  simp only [Traced.result_bind, bind_eq_ok_iff] at h
  obtain ⟨requirements, -, names, hnames, groups, -, entries, -, more, hmore, h⟩ := h
  obtain rfl := Except.ok.inj h
  have hown : MadeOfRequirements (defaultName, Feature.ofPypiNames defaultName names) :=
    ⟨requirements, names, hnames, rfl⟩
  exact forall_mem_putFields (List.forall_mem_singleton.mpr hown)
    (madeOfRequirements_groupFeatures hmore)

/-! ### Environments -/

theorem EnvironmentSpec.name_of_ofValue {name : String} {v : Value} {e : EnvironmentSpec}
    (h : EnvironmentSpec.ofValue name v = .ok e) : e.name = name := by
  have hcheck : ∀ {features noDefault : Value},
      checked (EnvironmentSpec.check name features noDefault) = .ok e → e.name = name := by
    intro features noDefault h
    rw [checked, mapError_eq_ok_iff] at h
    obtain ⟨f, b, hf, -, rfl⟩ := Checked.apply_eq_ok_iff.mp h
    obtain ⟨g, fs, hg, -, rfl⟩ := Checked.apply_eq_ok_iff.mp hf
    obtain rfl := Except.ok.inj hg
    rfl
  unfold EnvironmentSpec.ofValue at h
  split at h
  · exact hcheck h
  · simp only [bind_eq_ok_iff] at h
    obtain ⟨features, -, noDefault, -, h⟩ := h
    exact hcheck h

namespace Manifest

theorem environment_eq_ok_iff {m : Manifest} {name : String} {e : EnvironmentSpec} :
    m.environment name = .ok e ↔ m.environments.lookup name = some e := by
  unfold Manifest.environment Manifest.environment?
  cases m.environments.lookup name <;> simp

/-- Environments stand under their own names. -/
def NamedByKey (environments : List (String × EnvironmentSpec)) : Prop :=
  ∀ name e, environments.lookup name = some e → e.name = name

/-- Asking for an environment that was found by its own name finds it again. -/
theorem NamedByKey.environment_name {m : Manifest} (h : NamedByKey m.environments) {name : String}
    {e : EnvironmentSpec} (he : m.environment name = .ok e) : m.environment e.name = .ok e := by
  have hname : e.name = name := h name e (environment_eq_ok_iff.mp he)
  rwa [hname]

/-! ### Manifests -/

/-- The names of the entries of a table inside a table, none if there is no such table. -/
def keyNames (v : Value) (table : String) : List String :=
  ((tableIn v table).entries.toOption.getD []).map (keyName ·.1)

theorem keyNames_eq {v found : Value} {table : String} {entries : List (Value × Value)}
    (hfound : asked (v.ask table (.table [])) = .ok found)
    (hentries : asked found.entries = .ok entries) :
    keyNames v table = entries.map (keyName ·.1) := by
  rw [asked, mapError_eq_ok_iff] at hfound hentries
  unfold Value.ask at hfound
  split at hfound
  · obtain rfl := Except.ok.inj hfound
    rw [keyNames, tableIn, hentries]
    rfl
  · cases hfound

/-- A manifest that was read from a table, with features from elsewhere, keeps its environments and
features under their own names. -/
structure KeepsNames (m : Manifest) (table : Value) (extra : List (String × Feature)) : Prop where
  /-- The environments are `default` and those of the table. -/
  environments : KeptUnder EnvironmentSpec.name
    (defaultName :: keyNames table "environments") m.environments
  /-- The features are `default`, those of the table and those from elsewhere. -/
  features : KeptUnder Feature.name
    (defaultName :: (keyNames table "feature" ++ extra.map (·.1))) m.features

theorem keepsNames_of_ofTable {table : Value} {extra : List (String × Feature)} {m : Manifest}
    (hextra : ∀ entry ∈ extra, entry.2.name = entry.1) (h : ofTable table extra = .ok m) :
    m.KeepsNames table extra := by
  unfold ofTable at h
  simp only [bind_eq_ok_iff] at h
  obtain ⟨workspace, -, base, hbase, featureTable, hfeatureTable, featureEntries, hfeatureEntries,
    features, hfeatures, environmentTable, henvironmentTable, environmentEntries,
    henvironmentEntries, environments, henvironments, name, -, platforms, -, h⟩ := h
  rw [checked, mapError_eq_ok_iff] at h
  obtain ⟨f, ps, hf, -, rfl⟩ := Checked.apply_eq_ok_iff.mp h
  obtain ⟨g, n, hg, -, rfl⟩ := Checked.apply_eq_ok_iff.mp hf
  obtain rfl := Except.ok.inj hg
  -- Both are there under `default` before any of the tables is read.
  have htop : KeptUnder Feature.name [defaultName] [(defaultName, base)] :=
    .single (Feature.name_of_ofTable hbase)
  have hdefault : KeptUnder EnvironmentSpec.name [defaultName]
      [(defaultName, EnvironmentSpec.default)] := .single rfl
  refine ⟨?environments, ?features⟩
  case environments =>
    rw [keyNames_eq henvironmentTable henvironmentEntries]
    exact hdefault.read setsEach_readEnvironments EnvironmentSpec.name_of_ofValue henvironments
  case features =>
    rw [keyNames_eq hfeatureTable hfeatureEntries]
    have htables := htop.read setsEach_readFeatures Feature.name_of_ofTable hfeatures
    exact htables.mergeFeatures hextra

namespace KeepsNames

variable {m : Manifest} {table : Value} {extra : List (String × Feature)}

theorem namedByKey (h : m.KeepsNames table extra) : NamedByKey m.environments :=
  fun _ _ he => h.environments.name_of_lookup he

theorem environment_of_mem (h : m.KeepsNames table extra) {entry : String × EnvironmentSpec}
    (hentry : entry ∈ m.environments) : m.environment entry.1 = .ok entry.2 :=
  environment_eq_ok_iff.mpr (h.environments.lookup_eq_some_iff.mpr hentry)

end KeepsNames

/-- A manifest is read from a table and from features that are made of requirements. -/
def IsRead (m : Manifest) : Prop :=
  ∃ table extra, (∀ entry ∈ extra, MadeOfRequirements entry) ∧ ofTable table extra = .ok m

theorem isRead_ofDocument {flavour : Flavour} {document : Value} {m : Manifest}
    (h : ofDocument flavour document = .ok m) : m.IsRead := by
  cases flavour with
  | own => exact ⟨document, [], List.forall_mem_nil _, h⟩
  | project =>
    unfold ofDocument ofProject at h
    simp only [Traced.result_bind, Traced.result_ofExcept, bind_eq_ok_iff] at h
    obtain ⟨project, -, features, hfeatures, table, -, h⟩ := h
    exact ⟨table, features, madeOfRequirements_projectFeatures hfeatures, h⟩

theorem IsRead.namedByKey {m : Manifest} (h : m.IsRead) : NamedByKey m.environments := by
  obtain ⟨table, extra, hextra, hm⟩ := h
  exact (keepsNames_of_ofTable (fun entry hentry => (hextra entry hentry).name_eq) hm).namedByKey

end Manifest

namespace Workspace

variable {s : Surroundings} {w : Workspace}

theorem isRead_open {root : Path} (h : (Workspace.open s root).result = .ok w) :
    w.manifest.IsRead := by
  obtain ⟨hfile, -, -⟩ := open_eq_ok h
  obtain ⟨document, -, hdocument⟩ := (ManifestFile.isOpened_open hfile).document
  exact Manifest.isRead_ofDocument hdocument

theorem isRead_locate {start : Option Path} (h : (locate s start).result = .ok w) :
    w.manifest.IsRead := by
  unfold locate at h
  rw [Traced.result_bind] at h
  obtain ⟨isFile, -, h⟩ := bind_eq_ok_iff.mp h
  cases isFile with
  | true => exact isRead_open h
  | false =>
    rw [if_neg (by decide), Traced.result_bind] at h
    obtain ⟨root, -, h⟩ := bind_eq_ok_iff.mp h
    cases root with
    | none => cases h
    | some root => exact isRead_open h

/-- The environment of a workspace that was found has the name that it was asked for by. -/
theorem name_of_environmentOf (h : Manifest.NamedByKey w.manifest.environments)
    {name : Option String} {e : EnvironmentSpec} (he : w.environmentOf s name = .ok e) :
    e.name = environmentName s name :=
  h _ _ (Manifest.environment_eq_ok_iff.mp he)

end Workspace

end PinLedger

/-
# What counts as declared

Whether a name is declared for an environment is said here about the tables of a manifest, not
about what was read from them: some feature that the environment uses has a group of dependency
tables for the platform, and one of these tables has a key that the name is the canonical form of.
The names that a manifest requests are these, each once, those that are declared as conda first.

Key definitions: `Declares`, `Applies`, `GroupFor`, `FeatureTables`, `UsesFeature`, `Selected`.
Key theorems: `selects_iff`, `mem_names_featureOf_iff`, `mem_names_manifestOf_iff`,
`requestedSpecs_are_selected`.
-/
import PinLedger.Proofs.Manifest.Tables

namespace PinLedger

open Document (Value)

/-! ### Declared in the tables -/

/-- The value of a name in the table that is the value of another name. -/
def entryIn (v : Value) (table name : String) : Option Value := (v.get? table).bind (·.get? name)

/-- A group of dependency tables declares a name as a name of a kind. -/
def Declares (group : Value) (kind : Kind) (n : String) : Prop :=
  ∃ t ∈ dependencyTables kind, ∃ key, (entryIn group t key).isSome ∧ kind.canonical key = n

/-- A target selector applies to a platform. -/
def Applies (selector platform : String) : Prop :=
  selector = platform ∨
    (selector = "unix" ∧ (Platform.family platform = "linux" ∨ Platform.family platform = "osx")) ∨
    (selector ≠ "unix" ∧ selector = Platform.family platform)

/-- A feature has a group of dependency tables for a platform: its own tables, or those of a target
that applies. -/
def GroupFor (feature : Value) (platform : Option String) (group : Value) : Prop :=
  group = feature ∨ ∃ p, platform = some p ∧
    ∃ selector, Applies selector p ∧ entryIn feature "target" selector = some group

/-- The tables of a feature. The top tables are those of the feature `default`. -/
def FeatureTables (table : Value) (name : String) (feature : Value) : Prop :=
  (name = defaultName ∧ feature = table) ∨ entryIn table "feature" name = some feature

/-- The manifest has an environment. -/
def HasEnvironment (table : Value) (name : String) : Prop :=
  name = defaultName ∨ (entryIn table "environments" name).isSome

/-- An environment lists a feature. -/
def ListsFeature (table : Value) (environment feature : String) : Prop :=
  ∃ v items, entryIn table "environments" environment = some v ∧
    (v = .list items ∨ v.get? "features" = some (.list items)) ∧ .text feature ∈ items

/-- An environment refuses the feature `default`. -/
def RefusesDefault (table : Value) (environment : String) : Prop :=
  ∃ v, entryIn table "environments" environment = some v ∧
    v.get? "no-default-feature" = some (.bool true)

/-- An environment uses a feature: it lists it, or does not refuse it. -/
def UsesFeature (table : Value) (environment feature : String) : Prop :=
  ListsFeature table environment feature ∨
    (feature = defaultName ∧ ¬ RefusesDefault table environment)

/-- A name is declared as a name of a kind for an environment and a platform. -/
def Selected (table : Value) (environment : String) (platform : Option String) (kind : Kind)
    (n : String) : Prop :=
  ∃ name feature group, UsesFeature table environment name ∧ FeatureTables table name feature ∧
    GroupFor feature platform group ∧ Declares group kind n

/-! ### A name in a group of tables -/

theorem get?_tableIn (v : Value) (table name : String) :
    (tableIn v table).get? name = entryIn v table name := by
  unfold tableIn entryIn
  cases v.get? table <;> rfl

/-- The entries of a table inside a table. -/
theorem mem_fieldsOf_tableIn_iff {P : Value → Prop} {v : Value} {table : String}
    (h : Optionally v table (TableOf P)) {name : String} {x : Value} :
    (name, x) ∈ fieldsOf (tableIn v table) ↔ entryIn v table name = some x := by
  have ht : TableOf P (tableIn v table) := h.tableOf_getD
  rw [ht.mem_fieldsOf_iff, get?_tableIn]

theorem lookup_fieldsOf_tableIn {P : Value → Prop} {v : Value} {table : String}
    (h : Optionally v table (TableOf P)) (name : String) :
    (fieldsOf (tableIn v table)).lookup name = entryIn v table name := by
  have ht : TableOf P (tableIn v table) := h.tableOf_getD
  rw [← ht.get?_eq, get?_tableIn]

/-- What stands in a table inside a table has the property of its values. -/
theorem Optionally.value {P : Value → Prop} {v : Value} {table : String}
    (h : Optionally v table (TableOf P)) {name : String} {x : Value}
    (hx : entryIn v table name = some x) : P x := by
  have ht : TableOf P (tableIn v table) := h.tableOf_getD
  exact ht.value ((mem_fieldsOf_tableIn_iff h).mpr hx)

theorem mem_declaredNames_iff {group : Value} (h : GroupShaped group) {kind : Kind} {n : String} :
    n ∈ declaredNames kind group ↔ Declares group kind n := by
  unfold declaredNames Declares
  rw [List.mem_flatMap]
  refine exists_congr fun t => and_congr_right fun ht => ?_
  rw [List.mem_map]
  constructor
  · rintro ⟨f, hf, rfl⟩
    have hentry := (mem_fieldsOf_tableIn_iff (h.dependencies kind t ht)).mp hf
    exact ⟨f.1, by rw [hentry]; rfl, rfl⟩
  · rintro ⟨key, hkey, rfl⟩
    obtain ⟨x, hx⟩ := Option.isSome_iff_exists.mp hkey
    exact ⟨(key, x), (mem_fieldsOf_tableIn_iff (h.dependencies kind t ht)).mpr hx, rfl⟩

/-! ### A name in a feature -/

theorem selects_iff {selector platform : String} :
    Platform.selects selector platform = true ↔ Applies selector platform := by
  unfold Platform.selects Applies Platform.unixFamilies
  by_cases hp : selector = platform
  · simp [hp]
  · by_cases hu : selector = "unix"
    · subst hu
      simp [hp]
    · simp [hu, hp]

namespace DependencyNames

/-- The names of a kind. -/
def named (d : DependencyNames) : Kind → List String
  | .conda => d.conda
  | .pypi => d.pypi

theorem named_append (a b : DependencyNames) (kind : Kind) :
    (a.append b).named kind = a.named kind ++ b.named kind := by
  cases kind <;> rfl

theorem named_concat (ds : List DependencyNames) (kind : Kind) :
    (concat ds).named kind = ds.flatMap (·.named kind) := by
  cases kind
  · exact conda_concat ds
  · exact pypi_concat ds

end DependencyNames

open DependencyNames (named_append named_concat)

theorem named_groupNames (group : Value) (kind : Kind) :
    (groupNames group).named kind = declaredNames kind group := by
  cases kind <;> rfl

/-- The names that the targets of a feature declare for a platform. -/
theorem mem_targetNames_iff {v : Value} (h : FeatureShaped v) (name p : String) {kind : Kind}
    {n : String} :
    (∃ d ∈ (featureOf name v).targetNames p, n ∈ d.named kind) ↔
      ∃ selector group, Applies selector p ∧ entryIn v "target" selector = some group ∧
        Declares group kind n := by
  have htarget : TableOf GroupShaped (tableIn v "target") := h.targets.tableOf_getD
  simp only [Feature.targetNames, featureOf, targetNamesOf, List.mem_map, List.mem_filter,
    selects_iff]
  constructor
  · rintro ⟨-, ⟨-, ⟨⟨⟨selector, group⟩, hf, rfl⟩, happlies⟩, rfl⟩, hn⟩
    rw [named_groupNames, mem_declaredNames_iff (htarget.value hf)] at hn
    exact ⟨selector, group, happlies, (mem_fieldsOf_tableIn_iff h.targets).mp hf, hn⟩
  · rintro ⟨selector, group, happlies, hentry, hn⟩
    have hf := (mem_fieldsOf_tableIn_iff h.targets).mpr hentry
    rw [← mem_declaredNames_iff (htarget.value hf), ← named_groupNames] at hn
    exact ⟨groupNames group, ⟨(selector, groupNames group), ⟨⟨_, hf, rfl⟩, happlies⟩, rfl⟩, hn⟩

/-- The names that a feature declares are those of its groups for the platform. -/
theorem mem_names_featureOf_iff {v : Value} (h : FeatureShaped v) (name : String)
    (platform : Option String) {kind : Kind} {n : String} :
    n ∈ ((featureOf name v).dependencyNames platform).named kind ↔
      ∃ group, GroupFor v platform group ∧ Declares group kind n := by
  have hown : n ∈ (featureOf name v).dependencies.named kind ↔ Declares v kind n := by
    rw [← mem_declaredNames_iff h.toGroupShaped, ← named_groupNames]
    rfl
  unfold Feature.dependencyNames GroupFor
  rw [named_append, List.mem_append, hown]
  cases platform with
  | none =>
    have hnone : n ∉ DependencyNames.empty.named kind := by cases kind <;> exact List.not_mem_nil
    simp [hnone]
  | some p =>
    rw [named_concat, List.mem_flatMap, mem_targetNames_iff h name p]
    constructor
    · rintro (hn | ⟨selector, group, happlies, hentry, hn⟩)
      · exact ⟨v, .inl rfl, hn⟩
      · exact ⟨group, .inr ⟨p, rfl, selector, happlies, hentry⟩, hn⟩
    · rintro ⟨group, rfl | ⟨p', hp, selector, happlies, hentry⟩, hn⟩
      · exact .inl hn
      · obtain rfl := Option.some.inj hp
        exact .inr ⟨selector, group, happlies, hentry, hn⟩

/-! ### A name in an environment -/

theorem FeatureTables.shaped {table v : Value} {name : String} (h : WellShaped table)
    (hf : FeatureTables table name v) : FeatureShaped v := by
  rcases hf with ⟨-, rfl⟩ | hf
  · exact h.toFeatureShaped
  · exact h.features.value hf

/-- The features of a manifest are those that have tables. -/
theorem lookup_featuresIn_iff {table : Value} (h : WellShaped table)
    (hdefault : entryIn table "feature" defaultName = none) {name : String} {f : Feature} :
    (featuresIn table).lookup name = some f ↔
      ∃ v, FeatureTables table name v ∧ featureOf name v = f := by
  have hfeature : TableOf FeatureShaped (tableIn table "feature") := h.features.tableOf_getD
  unfold featuresIn FeatureTables
  rw [lookup_putFields _ _ hfeature.nodup, lookup_fieldsOf_tableIn h.features]
  by_cases hname : name = defaultName
  · -- Only a `[feature.default]` could take the place of the top tables.
    subst hname
    simp [hdefault]
  · have hne : (name == defaultName) = false := by simpa using hname
    simp [List.lookup_cons, hne, hname]

theorem refusesDefault_iff {v : Value} :
    refusesDefault v = true ↔ v.get? "no-default-feature" = some (.bool true) := by
  unfold refusesDefault
  split <;> simp_all

/-- The features that an environment lists, in either of the two ways to write it. -/
theorem mem_textsOf_listIn_iff {v : Value} (h : EnvironmentShaped v) (feature : String) :
    feature ∈ textsOf (listIn v) ↔
      ∃ items, (v = .list items ∨ v.get? "features" = some (.list items)) ∧
        .text feature ∈ items := by
  rw [mem_textsOf_iff (textList_listIn h)]
  refine exists_congr fun items => and_congr_left fun hmem => ?_
  unfold listIn
  split
  · simp [Value.get?]
  · rename_i hlist
    have hv : v ≠ .list items := hlist items
    cases hfeatures : v.get? "features" with
    | none =>
      -- A missing list is taken for an empty one, which lists nothing.
      have hnil : items ≠ [] := List.ne_nil_of_mem hmem
      simp [hv, hnil.symm]
    | some x => simp [hv]

/-- An environment of the tables is an environment of the manifest, with the same features. -/
theorem environment_manifestOf {table : Value} (h : WellShaped table) {name : String}
    (hname : HasEnvironment table name) :
    ∃ e, (manifestOf table []).environment name = .ok e ∧
      ∀ feature, feature ∈ e.featureNames ↔ UsesFeature table name feature := by
  have htable : TableOf EnvironmentShaped (tableIn table "environments") :=
    h.environments.tableOf_getD
  have hlookup : (manifestOf table []).environment? name =
      ((entryIn table "environments" name).map (environmentOf name)).or
        (List.lookup name [(defaultName, EnvironmentSpec.default)]) := by
    rw [← lookup_fieldsOf_tableIn h.environments, ← lookup_putFields _ _ htable.nodup]
    rfl
  unfold UsesFeature ListsFeature RefusesDefault Manifest.environment
  rw [hlookup]
  cases hentry : entryIn table "environments" name with
  | some v =>
    refine ⟨environmentOf name v, rfl, fun feature => ?_⟩
    have hlists := mem_textsOf_listIn_iff (h.environments.value hentry) feature
    have hrefuses := refusesDefault_iff (v := v)
    unfold EnvironmentSpec.featureNames environmentOf
    by_cases hr : refusesDefault v = true
    · simp [hr, hlists, hrefuses.mp hr]
    · have hr' : v.get? "no-default-feature" ≠ some (.bool true) := mt hrefuses.mpr hr
      simp [hr, hlists, hr']
  | none =>
    have hdefault : name = defaultName := by
      simpa [HasEnvironment, hentry] using hname
    subst hdefault
    exact ⟨EnvironmentSpec.default, rfl, fun feature => by
      simp [EnvironmentSpec.featureNames, EnvironmentSpec.default]⟩

/-- The names that a manifest finds declared are those that its tables declare. -/
theorem mem_names_manifestOf_iff {table : Value} (h : WellShaped table)
    (hdefault : entryIn table "feature" defaultName = none) {name : String} {e : EnvironmentSpec}
    (he : ∀ feature, feature ∈ e.featureNames ↔ UsesFeature table name feature)
    (platform : Option String) (kind : Kind) (n : String) :
    n ∈ ((manifestOf table []).dependencyNames e platform).named kind ↔
      Selected table name platform kind n := by
  unfold Manifest.dependencyNames Manifest.featuresOf Selected
  rw [named_concat, List.mem_flatMap]
  simp only [List.mem_map, List.mem_filterMap]
  constructor
  · rintro ⟨-, ⟨f, ⟨key, hkey, hf⟩, rfl⟩, hn⟩
    obtain ⟨v, htables, rfl⟩ := (lookup_featuresIn_iff h hdefault).mp hf
    obtain ⟨group, hgroup, hdeclares⟩ :=
      (mem_names_featureOf_iff (htables.shaped h) key platform).mp hn
    exact ⟨key, v, group, (he key).mp hkey, htables, hgroup, hdeclares⟩
  · rintro ⟨key, v, group, huses, htables, hgroup, hdeclares⟩
    have hn := (mem_names_featureOf_iff (htables.shaped h) key platform).mpr
      ⟨group, hgroup, hdeclares⟩
    have hf := (lookup_featuresIn_iff h hdefault).mpr ⟨v, htables, rfl⟩
    exact ⟨_, ⟨featureOf key v, ⟨key, (he key).mpr huses, hf⟩, rfl⟩, hn⟩

/-! ### The order of the names -/

/-- What is in the first list stands before what is only in the second. -/
theorem pairwise_distinct_append (xs ys : List String) :
    (Manifest.distinct (xs ++ ys)).Pairwise fun a b => b ∈ xs → a ∈ xs := by
  rw [Manifest.distinct_append, List.pairwise_append]
  have hfirst : ∀ a ∈ Manifest.distinct xs, a ∈ xs := fun a ha => Manifest.mem_distinct.mp ha
  have hsecond : ∀ b ∈ (Manifest.distinct ys).filter (fun y => !xs.contains y), b ∉ xs :=
    fun b hb => by simpa using (List.mem_filter.mp hb).2
  refine ⟨List.pairwise_of_forall_mem_list fun a ha _ _ _ => hfirst a ha,
    List.pairwise_of_forall_mem_list fun _ _ b hb hmem => absurd hmem (hsecond b hb),
    fun a ha _ _ _ => hfirst a ha⟩

/-- A well-shaped manifest is read, and for each of its environments and every platform it requests
the names that its tables declare, each once, those that are declared as conda first. -/
theorem requestedSpecs_are_selected (table : Value) (h : WellShaped table)
    (hdefault : entryIn table "feature" defaultName = none) :
    ∃ m, Manifest.ofTable table [] = .ok m ∧ ∀ name, HasEnvironment table name →
      ∃ e, m.environment name = .ok e ∧ ∀ platform,
        (∀ n, n ∈ m.requestedSpecs e platform ↔ ∃ kind, Selected table name platform kind n) ∧
        (m.requestedSpecs e platform).Nodup ∧
        (m.requestedSpecs e platform).Pairwise fun a b =>
          Selected table name platform .conda b → Selected table name platform .conda a := by
  refine ⟨manifestOf table [], Manifest.ofTable_eq h [], fun name hname => ?_⟩
  obtain ⟨e, hfound, he⟩ := environment_manifestOf h hname
  refine ⟨e, hfound, fun platform => ⟨fun n => ?_, Manifest.nodup_distinct _, ?_⟩⟩
  · have hconda := mem_names_manifestOf_iff h hdefault he platform .conda n
    have hpypi := mem_names_manifestOf_iff h hdefault he platform .pypi n
    unfold Manifest.requestedSpecs
    rw [Manifest.mem_distinct, List.mem_append]
    constructor
    · rintro (hn | hn)
      · exact ⟨.conda, hconda.mp hn⟩
      · exact ⟨.pypi, hpypi.mp hn⟩
    · rintro ⟨kind, hn⟩
      cases kind with
      | conda => exact .inl (hconda.mpr hn)
      | pypi => exact .inr (hpypi.mpr hn)
  · refine (pairwise_distinct_append _ _).imp fun {a b} hab hb => ?_
    have hconda := fun n => mem_names_manifestOf_iff h hdefault he platform .conda n
    exact (hconda a).mp (hab ((hconda b).mpr hb))

/-- A table with one dependency table, of one name. -/
def oneName (table name : String) : Value := .ofFields [(table, .ofFields [(name, .text "*")])]

theorem groupShaped_oneName (table name : String) : GroupShaped (oneName table name) where
  table := ⟨_, rfl, by simp, by simp [Anything]⟩
  dependencies := fun _ _ _ => Optionally.of_fields fun f hf _ => by
    obtain rfl := List.mem_singleton.mp hf
    exact ⟨_, rfl, by simp, by simp [Anything]⟩

theorem featureShaped_oneName (name : String) :
    FeatureShaped (oneName "pypi-dependencies" name) where
  toGroupShaped := groupShaped_oneName _ name
  targets := Optionally.of_fields <| by simp
  platforms := Optionally.of_fields <| by simp

/-- A manifest with a target for `unix`, a feature, and an environment that refuses the default
feature. -/
def mixedTables : Value := .ofFields [
  ("dependencies", .ofFields [(" NumPy ", .text "*")]),
  ("target", .ofFields [("unix", oneName "build-dependencies" "Make")]),
  ("feature", .ofFields [("test", oneName "pypi-dependencies" "Py_Test")]),
  ("environments", .ofFields [("test", .list [.text "test"]),
    ("bare", .ofFields [("features", .list [.text "test"]), ("no-default-feature", .bool true)])])]

theorem wellShaped_mixedTables : WellShaped mixedTables where
  table := ⟨_, rfl, by simp, by simp [Anything]⟩
  dependencies := fun kind name hname => Optionally.of_fields fun f hf he => by
    subst he
    simp only [List.mem_cons, List.not_mem_nil, or_false] at hf
    rcases hf with rfl | rfl | rfl | rfl
    · exact ⟨_, rfl, by simp, by simp [Anything]⟩
    all_goals cases kind <;> simp [dependencyTables, condaTables, pypiTable] at hname
  targets := Optionally.of_fields <| by
    simpa using ⟨_, rfl, by simp, by simpa using groupShaped_oneName _ _⟩
  platforms := Optionally.of_fields <| by simp
  workspace := Optionally.of_fields <| by simp
  project := Optionally.of_fields <| by simp
  features := Optionally.of_fields <| by
    simpa using ⟨_, rfl, by simp, by simpa using featureShaped_oneName _⟩
  environments := by
    have htest : TextList (.list [.text "test"]) := ⟨["test"], rfl⟩
    have hbare : EnvironmentShaped (.ofFields [("features", .list [.text "test"]),
        ("no-default-feature", .bool true)]) :=
      .inr ⟨⟨_, rfl, by simp, by simp [Anything]⟩, Optionally.of_fields <| by simpa using htest,
        Optionally.of_fields <| by simp⟩
    exact Optionally.of_fields <| by
      simpa using ⟨_, rfl, by simp, by simpa using ⟨.inl htest, hbare⟩⟩

theorem requestedSpecs_of_mixedTables :
    WellShaped mixedTables ∧ entryIn mixedTables "feature" defaultName = none ∧
    ∃ m e, Manifest.ofTable mixedTables [] = .ok m ∧ m.environment "test" = .ok e ∧
      "make" ∈ m.requestedSpecs e (some "osx-64") ∧
      (m.requestedSpecs e (some "osx-64")).Nodup := by
  have hdefault : entryIn mixedTables "feature" defaultName = none := rfl
  obtain ⟨m, hm, henv⟩ := requestedSpecs_are_selected mixedTables wellShaped_mixedTables hdefault
  obtain ⟨e, he, hspecs⟩ := henv "test" (.inr rfl)
  obtain ⟨hmem, hnodup, -⟩ := hspecs (some "osx-64")
  have huses : UsesFeature mixedTables "test" defaultName := by
    refine .inr ⟨rfl, ?_⟩
    rintro ⟨v, hv, hrefuses⟩
    obtain rfl := Option.some.inj hv
    exact absurd hrefuses (by simp [Value.get?])
  have hgroup : GroupFor mixedTables (some "osx-64")
      (.ofFields [("build-dependencies", .ofFields [("Make", .text "*")])]) :=
    .inr ⟨_, rfl, "unix", .inr (.inl ⟨rfl, .inr (by decide)⟩), rfl⟩
  have hmake : Selected mixedTables "test" (some "osx-64") .conda "make" :=
    ⟨_, _, _, huses, .inl ⟨rfl, rfl⟩, hgroup, "build-dependencies", by decide, "Make", rfl,
      by decide⟩
  exact ⟨wellShaped_mixedTables, hdefault, m, e, hm, he, (hmem _).mpr ⟨_, hmake⟩, hnodup⟩

end PinLedger

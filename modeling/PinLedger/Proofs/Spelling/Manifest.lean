/-
# Manifests whose names are spelled otherwise

A manifest document names packages in the keys of its dependency tables, and in a project file also
in its requirements. If some of these names are spelled otherwise, what is read from the document is
the same (`Manifest.ofDocument_respelled`): every reader turns names into their canonical form, and
no reader looks at them before.

Key definitions: `KeysRespelled`, `Within`, `ManifestPart`, `ProjectPart`, `ManifestRespelled`.
Key theorems: `Within.asked_bind`, `DependencyNames.ofTable_respelled`, `Feature.ofTable_respelled`,
`Manifest.ofTable_respelled`, `Manifest.ofProject_respelled`, `Manifest.ofDocument_respelled`.
-/
import PinLedger.Proofs.Manifest.Opening
import PinLedger.Proofs.Manifest.Shape
import PinLedger.Proofs.Outcome
import PinLedger.Proofs.Spelling.Names

namespace PinLedger

open Document (Value Checked putEntry)
open ManifestRead Outcome

/-! ### Documents whose names are spelled otherwise -/

/-- A key and the same key, or another spelling of it as a name of a kind. -/
def KeyRespelled (kind : Kind) (k k' : Value) : Prop :=
  k = k' ∨ ∃ a b, k = .text a ∧ k' = .text b ∧ kind.SameName a b

/-- Tables that differ at most in how their keys are spelled. -/
inductive KeysRespelled (kind : Kind) : Value → Value → Prop where
  | table {es es' : List (Value × Value)}
      (h : List.Forall₂ (fun e e' => KeyRespelled kind e.1 e'.1 ∧ e.2 = e'.2) es es') :
      KeysRespelled kind (.table es) (.table es')

/-- A requirement and the same requirement, or one in which the name is spelled otherwise. -/
def RequirementRespelled (x x' : Value) : Prop :=
  x = x' ∨ ∃ s s', x = .text s ∧ x' = .text s' ∧ Requirement.Respelled s s'

/-- Lists of requirements that differ at most in how names are spelled. -/
inductive RequirementsRespelled : Value → Value → Prop where
  | list {items items' : List Value} (h : List.Forall₂ RequirementRespelled items items') :
      RequirementsRespelled (.list items) (.list items')

/-- Tables with the same keys, in which some values are related as their names say. -/
inductive Within (R : String → Value → Value → Prop) : Value → Value → Prop where
  | table {es es' : List (Value × Value)}
      (h : List.Forall₂ (fun e e' => e.1 = e'.1 ∧
        (e.2 = e'.2 ∨ ∃ name, e.1 = .text name ∧ R name e.2 e'.2)) es es') :
      Within R (.table es) (.table es')

/-- The parts of a group of dependency tables that hold names. -/
def GroupPart (name : String) (v v' : Value) : Prop :=
  ∃ kind, name ∈ dependencyTables kind ∧ KeysRespelled kind v v'

/-- The parts of a feature that hold names. -/
def FeaturePart (name : String) (v v' : Value) : Prop :=
  GroupPart name v v' ∨ name = "target" ∧ Within (fun _ => Within GroupPart) v v'

/-- The parts of a manifest that hold names. -/
def ManifestPart (name : String) (v v' : Value) : Prop :=
  FeaturePart name v v' ∨ name = "feature" ∧ Within (fun _ => Within FeaturePart) v v'

/-- The parts of a `[project]` table that hold names. -/
def ProjectPart (name : String) (v v' : Value) : Prop :=
  (name = "dependencies" ∧ RequirementsRespelled v v') ∨
    name = "optional-dependencies" ∧ Within (fun _ => RequirementsRespelled) v v'

/-- The part of a `[tool]` table that holds names. -/
def ToolPart (name : String) (v v' : Value) : Prop := name = "pixi" ∧ Within ManifestPart v v'

/-- The parts of a project file that hold names. -/
def FilePart (name : String) (v v' : Value) : Prop :=
  (name = "project" ∧ Within ProjectPart v v') ∨ name = "tool" ∧ Within ToolPart v v'

/-- Manifest documents of a flavour that differ at most in how names are spelled. -/
def ManifestRespelled : Flavour → Value → Value → Prop
  | .own => Within ManifestPart
  | .project => Within FilePart

/-! ### Asking for parts -/

theorem get?_cons (e : Value × Value) (es : List (Value × Value)) (name : String) :
    (Value.table (e :: es)).get? name =
      if e.1.sameKey (.text name) then some e.2 else (Value.table es).get? name := by
  simp only [Value.get?, List.find?_cons]
  split <;> simp_all

namespace Within

variable {R : String → Value → Value → Prop} {v v' : Value}

/-- Under one name there are the same or related values, or none. -/
theorem get? (h : Within R v v') (name : String) :
    (v.get? name = none ∧ v'.get? name = none) ∨
      ∃ x x', v.get? name = some x ∧ v'.get? name = some x' ∧ (x = x' ∨ R name x x') := by
  obtain ⟨h⟩ := h
  induction h with
  | nil => exact .inl ⟨rfl, rfl⟩
  | @cons e e' es es' he _ ih =>
    obtain ⟨hkey, hvalue⟩ := he
    rw [get?_cons, get?_cons, ← hkey]
    by_cases hfound : e.1.sameKey (.text name) = true
    · rw [if_pos hfound, if_pos hfound]
      refine .inr ⟨e.2, e'.2, rfl, rfl, hvalue.imp_right ?_⟩
      rintro ⟨name', hname', hpart⟩
      rw [hname', Value.sameKey_text, beq_iff_eq] at hfound
      rwa [← hfound]
    · rw [if_neg hfound, if_neg hfound]
      exact ih

/-- A question for a part that holds no names is answered alike. -/
theorem get?_eq (h : Within R v v') {name : String} (hname : ∀ x x', ¬ R name x x') :
    v.get? name = v'.get? name := by
  rcases h.get? name with ⟨hx, hx'⟩ | ⟨x, x', hx, hx', rfl | hpart⟩
  · rw [hx, hx']
  · rw [hx, hx']
  · exact absurd hpart (hname x x')

theorem ask (h : Within R v v') (name : String) (default : Value) :
    Related (fun x x' => x = x' ∨ R name x x') (v.ask name default) (v'.ask name default) := by
  have hget := h.get? name
  obtain ⟨h⟩ := h
  refine .ok ?_
  rcases hget with ⟨hx, hx'⟩ | ⟨x, x', hx, hx', hpart⟩
  · rw [hx, hx']
    exact .inl rfl
  · rw [hx, hx']
    exact hpart

theorem ask_eq (h : Within R v v') {name : String} (hname : ∀ x x', ¬ R name x x')
    (default : Value) : v.ask name default = v'.ask name default := by
  have hget := h.get?_eq hname
  obtain ⟨h⟩ := h
  exact congrArg (fun o => Except.ok (Option.getD o default)) hget

/-- What is done with a part ends alike if related parts are treated alike. -/
theorem asked_bind {α : Type} (h : Within R v v') (name : String) (default : Value)
    {f f' : Value → ManifestRead α} (hsame : ∀ x, f x = f' x)
    (hpart : ∀ x x', R name x x' → f x = f' x') :
    asked (v.ask name default) >>= f = asked (v'.ask name default) >>= f' := by
  refine ((h.ask name default).mapError Failure.breakdown).bind_eq fun x x' hx => ?_
  rcases hx with rfl | hx
  · exact hsame x
  · exact hpart x x' hx

theorem part (h : Within R v v') (name : String) :
    Related (fun x x' => x = x' ∨ R name x x') (v.part name) (v'.part name) := by
  have hget := h.get? name
  obtain ⟨h⟩ := h
  unfold Value.part
  rcases hget with ⟨hx, hx'⟩ | ⟨x, x', hx, hx', hpart⟩
  · simp only [hx, hx']
    exact .error _
  · simp only [hx, hx']
    exact .ok hpart

end Within

/-! ### Dependencies -/

/-- The names that a table declares. -/
theorem namesIn_respelled {kind : Kind} {v v' : Value} (h : KeysRespelled kind v v') :
    namesIn kind v = namesIn kind v' := by
  cases h with
  | @table es es' h =>
    have hkeys : List.Forall₂ (KeyRespelled kind) (es.map (·.1)) (es'.map (·.1)) := by
      rw [List.forall₂_map_left_iff, List.forall₂_map_right_iff]
      exact h.imp fun e e' he => he.1
    refine Related.mapM_eq hkeys fun k k' hk => ?_
    rcases hk with rfl | ⟨a, b, rfl, rfl, hab⟩
    · rfl
    · exact congrArg Except.ok hab

theorem condaNamesIn_respelled {R : String → Value → Value → Prop} {v v' : Value}
    (h : Within R v v') {tables : List String}
    (hR : ∀ name ∈ tables, ∀ x x', R name x x' → KeysRespelled .conda x x') :
    condaNamesIn v tables = condaNamesIn v' tables := by
  induction tables with
  | nil => rfl
  | cons name tables ih =>
    have hrest := ih fun n hn => hR n (List.mem_cons_of_mem _ hn)
    have hnames := h.asked_bind name (.table []) (fun _ => rfl) fun x x' hx =>
      namesIn_respelled (hR name (List.mem_cons_self ..) x x' hx)
    unfold condaNamesIn
    rw [hrest, ← bind_assoc, hnames, bind_assoc]

/-- A table is respelled in its dependency tables at most. -/
def NamesIn (R : String → Value → Value → Prop) : Prop :=
  ∀ kind, ∀ name ∈ dependencyTables kind, ∀ x x', R name x x' → KeysRespelled kind x x'

/-- The names that a group of dependency tables declares. -/
theorem DependencyNames.ofTable_respelled {R : String → Value → Value → Prop} {v v' : Value}
    (h : Within R v v') (hR : NamesIn R) :
    DependencyNames.ofTable v = DependencyNames.ofTable v' := by
  have hconda := condaNamesIn_respelled h (hR .conda)
  have hpypi := h.asked_bind pypiTable (.table []) (fun _ => rfl) fun x x' hx =>
    namesIn_respelled (hR .pypi pypiTable (List.mem_singleton.mpr rfl) x x' hx)
  unfold DependencyNames.ofTable
  rw [show condaTables = dependencyTables .conda from rfl, hconda]
  refine congrArg _ (funext fun conda => ?_)
  rw [← bind_assoc, hpypi, bind_assoc]

/-! ### Features -/

/-- No table of a group is called like this. -/
theorem not_groupPart {name : String} (h : name ∉ pypiTable :: condaTables) (v v' : Value) :
    ¬ GroupPart name v v' := by
  rintro ⟨kind, hname, -⟩
  cases kind with
  | conda => exact h (List.mem_cons_of_mem _ hname)
  | pypi => exact h (List.mem_singleton.mp hname ▸ List.mem_cons_self ..)

theorem GroupPart.namesIn : NamesIn GroupPart := by
  rintro kind name hname v v' ⟨kind', hname', h⟩
  have hpypi : pypiTable ∉ condaTables := by decide
  obtain rfl : kind = kind' := by
    cases kind <;> cases kind'
    · rfl
    · exact absurd (List.mem_singleton.mp hname' ▸ hname) hpypi
    · exact absurd (List.mem_singleton.mp hname ▸ hname') hpypi
    · rfl
  exact h

theorem FeaturePart.namesIn : NamesIn FeaturePart := by
  rintro kind name hname v v' (h | ⟨rfl, -⟩)
  · exact GroupPart.namesIn kind name hname v v' h
  · exact absurd hname (by cases kind <;> decide)

theorem ManifestPart.namesIn : NamesIn ManifestPart := by
  rintro kind name hname v v' (h | ⟨rfl, -⟩)
  · exact FeaturePart.namesIn kind name hname v v' h
  · exact absurd hname (by cases kind <;> decide)

theorem targetsOf_respelled {es es' : List (Value × Value)}
    (h : Within (fun _ => Within GroupPart) (.table es) (.table es')) :
    Feature.targetsOf es = Feature.targetsOf es' := by
  obtain ⟨h⟩ := h
  induction h with
  | nil => rfl
  | @cons e e' es es' he _ ih =>
    obtain ⟨key, table⟩ := e
    obtain ⟨key', table'⟩ := e'
    obtain ⟨hkey, hvalue⟩ := he
    have hnames : DependencyNames.ofTable table = DependencyNames.ofTable table' := by
      rcases hvalue with hsame | ⟨_, -, hpart⟩
      · exact congrArg _ hsame
      · exact DependencyNames.ofTable_respelled hpart GroupPart.namesIn
    obtain rfl : key = key' := hkey
    rw [Feature.targetsOf, Feature.targetsOf, hnames, ih]

/-- Tables from which features are read: besides names only their targets may be respelled. -/
structure FeatureParts (R : String → Value → Value → Prop) : Prop where
  names : NamesIn R
  targets : ∀ x x', R "target" x x' → Within (fun _ => Within GroupPart) x x'
  platforms : ∀ x x', ¬ R "platforms" x x'

/-- A feature is read alike. -/
theorem Feature.ofTable_respelled {R : String → Value → Value → Prop} {v v' : Value}
    (h : Within R v v') (hR : FeatureParts R) (name : String) :
    Feature.ofTable name v = Feature.ofTable name v' := by
  have hnames := DependencyNames.ofTable_respelled h hR.names
  have hplatforms := h.ask_eq hR.platforms .null
  unfold Feature.ofTable
  rw [hnames, hplatforms]
  refine h.asked_bind "target" (.table []) (fun _ => rfl) fun x x' hx => ?_
  cases hR.targets x x' hx with
  | @table es es' hes =>
    change Feature.targetsOf es >>= _ = Feature.targetsOf es' >>= _
    rw [targetsOf_respelled (.table hes)]

theorem FeaturePart.featureParts : FeatureParts FeaturePart where
  names := FeaturePart.namesIn
  targets := by
    rintro x x' (h | ⟨-, h⟩)
    · exact absurd h (not_groupPart (by decide) x x')
    · exact h
  platforms := by
    rintro x x' (h | ⟨hname, -⟩)
    · exact not_groupPart (by decide) x x' h
    · exact absurd hname (by decide)

theorem ManifestPart.featureParts : FeatureParts ManifestPart where
  names := ManifestPart.namesIn
  targets := by
    rintro x x' (h | ⟨hname, -⟩)
    · exact FeaturePart.featureParts.targets x x' h
    · exact absurd hname (by decide)
  platforms := by
    rintro x x' (h | ⟨hname, -⟩)
    · exact FeaturePart.featureParts.platforms x x' h
    · exact absurd hname (by decide)

/-! ### Manifests -/

theorem Manifest.readFeatures_respelled {es es' : List (Value × Value)}
    (h : Within (fun _ => Within FeaturePart) (.table es) (.table es'))
    (known : List (String × Feature)) :
    Manifest.readFeatures known es = Manifest.readFeatures known es' := by
  obtain ⟨h⟩ := h
  induction h generalizing known with
  | nil => rfl
  | @cons e e' es es' he _ ih =>
    obtain ⟨key, table⟩ := e
    obtain ⟨key', table'⟩ := e'
    obtain ⟨hkey, hvalue⟩ := he
    obtain rfl : key = key' := hkey
    have hfeature : ∀ name, Feature.ofTable name table = Feature.ofTable name table' := by
      intro name
      rcases hvalue with hsame | ⟨_, -, hpart⟩
      · exact congrArg _ hsame
      · exact Feature.ofTable_respelled hpart FeaturePart.featureParts name
    simp only [Manifest.readFeatures, hfeature]
    exact congrArg _ (funext fun feature => ih _)

/-- The parts of a manifest that hold no names. -/
theorem not_manifestPart {name : String}
    (h : name ∉ "feature" :: "target" :: pypiTable :: condaTables) (v v' : Value) :
    ¬ ManifestPart name v v' := by
  rintro ((hpart | ⟨rfl, -⟩) | ⟨rfl, -⟩)
  · exact not_groupPart (fun hname => h (by simp [List.mem_cons.mp hname])) v v' hpart
  · exact h (by decide)
  · exact h (by decide)

theorem ManifestPart.features {v v' : Value} (h : ManifestPart "feature" v v') :
    Within (fun _ => Within FeaturePart) v v' := by
  rcases h with (hpart | ⟨hname, -⟩) | ⟨-, h⟩
  · exact absurd hpart (not_groupPart (by decide) v v')
  · exact absurd hname (by decide)
  · exact h

theorem Manifest.workspaceOf_respelled {v v' : Value} (h : Within ManifestPart v v') :
    Manifest.workspaceOf v = Manifest.workspaceOf v' := by
  have hworkspace : v.ask "workspace" .null = v'.ask "workspace" .null :=
    h.ask_eq (not_manifestPart (by decide)) _
  have hproject : v.ask "project" .null = v'.ask "project" .null :=
    h.ask_eq (not_manifestPart (by decide)) _
  unfold Manifest.workspaceOf
  rw [hworkspace, hproject]

/-- A manifest is read alike from its tables. -/
theorem Manifest.ofTable_respelled {v v' : Value} (h : Within ManifestPart v v')
    (extra : List (String × Feature)) : Manifest.ofTable v extra = Manifest.ofTable v' extra := by
  have hworkspace := Manifest.workspaceOf_respelled h
  have hbase := Feature.ofTable_respelled h ManifestPart.featureParts defaultName
  have henvironments : v.ask "environments" (.table []) = v'.ask "environments" (.table []) :=
    h.ask_eq (not_manifestPart (by decide)) _
  unfold Manifest.ofTable
  rw [hworkspace, hbase]
  simp only [henvironments]
  refine congrArg _ (funext fun workspace => congrArg _ (funext fun base => ?_))
  refine h.asked_bind "feature" (.table []) (fun _ => rfl) fun x x' hx => ?_
  cases hx.features with
  | @table es es' hes =>
    change Manifest.readFeatures _ es >>= _ = Manifest.readFeatures _ es' >>= _
    rw [Manifest.readFeatures_respelled (.table hes)]

/-! ### Project files -/

theorem requirementNamesOf_respelled {items items' : List Value}
    (h : List.Forall₂ RequirementRespelled items items') :
    requirementNamesOf items = requirementNamesOf items' := by
  induction h with
  | nil => rfl
  | @cons x x' items items' hx _ ih =>
    rcases hx with rfl | ⟨s, s', rfl, rfl, hrespelled⟩
    · cases x <;> simp only [requirementNamesOf, ih]
    · obtain ⟨name, name', hname, hname', hsame⟩ := hrespelled.names
      have hcanonical : Name.pypi name = Name.pypi name' := hsame
      simp only [requirementNamesOf, hname, hname', hcanonical, ih]

theorem tracedNames_respelled {v v' : Value} (h : RequirementsRespelled v v') :
    tracedNames v = tracedNames v' := by
  obtain ⟨h⟩ := h
  have hnames : requirementNames (.list _) = requirementNames (.list _) :=
    requirementNamesOf_respelled h
  unfold tracedNames
  rw [hnames]

/-- A question to a `[project]` table, and what is done with the answer. -/
theorem Within.ofAsked_bind {R : String → Value → Value → Prop} {v v' : Value} {α : Type}
    (h : Within R v v') (name : String) (default : Value) {f : Value → Traced α}
    (hpart : ∀ x x', R name x x' → f x = f x') :
    Manifest.projectFeatures.ofAsked (v.ask name default) >>= f =
      Manifest.projectFeatures.ofAsked (v'.ask name default) >>= f := by
  have hask := h.ask name default
  generalize v.ask name default = a at hask ⊢
  generalize v'.ask name default = a' at hask ⊢
  cases hask with
  | error e => rfl
  | @ok x x' hx =>
    simp only [Manifest.projectFeatures.ofAsked, Except.mapError, ofExcept, pure_bind]
    rcases hx with rfl | hx
    · rfl
    · exact hpart x x' hx

theorem Manifest.groupFeatures_respelled {es es' : List (Value × Value)}
    (h : Within (fun _ => RequirementsRespelled) (.table es) (.table es')) :
    Manifest.groupFeatures es = Manifest.groupFeatures es' := by
  obtain ⟨h⟩ := h
  induction h with
  | nil => rfl
  | @cons e e' es es' he _ ih =>
    obtain ⟨key, requirements⟩ := e
    obtain ⟨key', requirements'⟩ := e'
    obtain ⟨hkey, hvalue⟩ := he
    obtain rfl : key = key' := hkey
    have hnames : tracedNames requirements = tracedNames requirements' := by
      rcases hvalue with hsame | ⟨_, -, hpart⟩
      · exact congrArg _ hsame
      · exact tracedNames_respelled hpart
    simp only [Manifest.groupFeatures, hnames, ih]

/-- The features that a `[project]` table makes are the same. -/
theorem Manifest.projectFeatures_respelled {v v' : Value} (h : Within ProjectPart v v') :
    Manifest.projectFeatures v = Manifest.projectFeatures v' := by
  have hgroups : ∀ rest : List (String × Feature) → Traced (List (String × Feature)),
      (do rest (← groupFeatures (← projectFeatures.ofAsked
        (← projectFeatures.ofAsked (v.ask "optional-dependencies" (.table []))).entries))) =
      (do rest (← groupFeatures (← projectFeatures.ofAsked
        (← projectFeatures.ofAsked (v'.ask "optional-dependencies" (.table []))).entries))) := by
    intro rest
    refine h.ofAsked_bind "optional-dependencies" (.table []) fun x x' hx => ?_
    rcases hx with ⟨hname, -⟩ | ⟨-, hx⟩
    · exact absurd hname (by decide)
    · cases hx with
      | @table es es' hes =>
        have hread := Manifest.groupFeatures_respelled (.table hes)
        simp only [Value.entries, projectFeatures.ofAsked, Except.mapError, ofExcept, pure_bind,
          hread]
  unfold Manifest.projectFeatures
  simp only [hgroups]
  refine h.ofAsked_bind "dependencies" (.list []) fun x x' hx => ?_
  rcases hx with ⟨-, hx⟩ | ⟨hname, -⟩
  · rw [tracedNames_respelled hx]
  · exact absurd hname (by decide)

/-- Setting the same value of a key keeps tables related. -/
theorem Within.putEntry {R : String → Value → Value → Prop} {es es' : List (Value × Value)}
    (h : Within R (.table es) (.table es')) (key value : Value) :
    Within R (.table (putEntry es key value)) (.table (putEntry es' key value)) := by
  obtain ⟨h⟩ := h
  have hany : (es.any fun e => e.1.sameKey key) = es'.any fun e => e.1.sameKey key := by
    induction h with
    | nil => rfl
    | cons he _ ih => rw [List.any_cons, List.any_cons, he.1, ih]
  unfold Document.putEntry
  rw [← hany]
  split
  · refine .table ?_
    rw [List.forall₂_map_left_iff, List.forall₂_map_right_iff]
    refine h.imp fun e e' he => ?_
    rw [← he.1]
    split
    · exact ⟨rfl, .inl rfl⟩
    · exact he
  · exact .table (List.rel_append h (.cons ⟨rfl, .inl rfl⟩ .nil))

/-- The tables of a manifest inside a project file differ at most in how names are spelled. -/
theorem Manifest.projectTable_respelled {v v' project project' : Value} (h : Within FilePart v v')
    (hname : project.ask "name" .null = project'.ask "name" .null) :
    Related (fun t t' => t = t' ∨ Within ManifestPart t t') (Manifest.projectTable v project)
      (Manifest.projectTable v' project') := by
  unfold Manifest.projectTable
  rw [hname]
  refine ((h.part "tool").mapError Failure.breakdown).bind fun tool tool' htool => ?_
  have hpart : Related (fun t t' => t = t' ∨ Within ManifestPart t t') (tool.part "pixi")
      (tool'.part "pixi") := by
    rcases htool with rfl | ⟨hname, -⟩ | ⟨-, htool⟩
    · exact (Related.of_eq rfl).imp fun _ _ => .inl
    · exact absurd hname (by decide)
    · exact (htool.part "pixi").imp fun _ _ => Or.imp_right And.right
  refine (hpart.mapError Failure.breakdown).bind fun table table' htable => ?_
  rcases htable with rfl | htable
  · exact (Related.of_eq rfl).imp fun _ _ => .inl
  · refine (Related.of_eq (Manifest.workspaceOf_respelled htable)).bind fun workspace _ hw => ?_
    obtain rfl := hw
    refine Related.bind_self _ fun named => ?_
    cases named with
    | true => exact .ok (.inr htable)
    | false =>
      refine Related.bind_self _ fun name => ?_
      cases htable with
      | table hes =>
        cases workspace with
        | table ws => exact .ok (.inr ((Within.table hes).putEntry _ _))
        | _ => exact .error _

/-- A manifest is read alike from a project file. -/
theorem Manifest.ofProject_respelled {v v' : Value} (h : Within FilePart v v') :
    (Manifest.ofProject v).result = (Manifest.ofProject v').result := by
  unfold Manifest.ofProject
  simp only [Traced.result_bind, Traced.result_ofExcept]
  refine ((h.ask "project" (.table [])).mapError Failure.breakdown).bind_eq
    fun project project' hproject => ?_
  have hparts : Manifest.projectFeatures project = Manifest.projectFeatures project' ∧
      project.ask "name" .null = project'.ask "name" .null := by
    rcases hproject with rfl | ⟨-, hproject⟩ | ⟨hname, -⟩
    · exact ⟨rfl, rfl⟩
    · refine ⟨Manifest.projectFeatures_respelled hproject, hproject.ask_eq ?_ _⟩
      rintro x x' (⟨hname, -⟩ | ⟨hname, -⟩)
      · exact absurd hname (by decide)
      · exact absurd hname (by decide)
    · exact absurd hname (by decide)
  rw [hparts.1]
  refine congrArg _ (funext fun features => ?_)
  refine (Manifest.projectTable_respelled h hparts.2).bind_eq fun table table' htable => ?_
  rcases htable with rfl | htable
  · rfl
  · exact Manifest.ofTable_respelled htable features

/-! ### Manifest documents -/

/-- What is read from a manifest document does not depend on how its names are spelled. -/
theorem Manifest.ofDocument_respelled {flavour : Flavour} {v v' : Value}
    (h : ManifestRespelled flavour v v') :
    Manifest.ofDocument flavour v = Manifest.ofDocument flavour v' := by
  cases flavour with
  | own => exact Manifest.ofTable_respelled h []
  | project => exact Manifest.ofProject_respelled h

end PinLedger

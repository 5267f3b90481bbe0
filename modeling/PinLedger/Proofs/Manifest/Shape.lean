/-
# Well-shaped manifest tables

A manifest is well-shaped if every part that is there has the type its reader asks for: tables have
texts as keys, each once, and lists hold texts. What cannot go wrong in such a table is said here
once: asking it for a name gives the value of that name, and its keys are the names it holds.

Key definitions: `TableOf`, `Optionally`, `GroupShaped`, `FeatureShaped`, `EnvironmentShaped`,
`WellShaped`, `fieldsOf`.
Key theorems: `TableOf.ask_eq`, `TableOf.entries_eq`, `TableOf.members_eq`, `mem_fieldsOf_iff`.
-/
import Mathlib.Data.List.Nodup
import PinLedger.Manifest.Reader

namespace PinLedger

open Document (Value)

/-! ### Shapes -/

/-- A table whose keys are texts, each once, and whose values have a property. -/
def TableOf (P : Value → Prop) (v : Value) : Prop :=
  ∃ fields : List (String × Value), v = .ofFields fields ∧ (fields.map (·.1)).Nodup ∧
    ∀ f ∈ fields, P f.2

/-- Any value. -/
def Anything (_ : Value) : Prop := True

/-- The value of a name has a property, if there is one. -/
def Optionally (v : Value) (name : String) (P : Value → Prop) : Prop :=
  ∀ x, v.get? name = some x → P x

/-- A list of texts. -/
def TextList (v : Value) : Prop := ∃ ss : List String, v = .list (ss.map .text)

/-- The tables whose keys are names of a kind. -/
def dependencyTables : Kind → List String
  | .conda => condaTables
  | .pypi => [pypiTable]

/-- A table that may hold dependency tables. -/
structure GroupShaped (v : Value) : Prop where
  table : TableOf Anything v
  dependencies : ∀ kind, ∀ name ∈ dependencyTables kind, Optionally v name (TableOf Anything)

/-- A table that describes a feature. -/
structure FeatureShaped (v : Value) : Prop extends GroupShaped v where
  targets : Optionally v "target" (TableOf GroupShaped)
  platforms : Optionally v "platforms" TextList

/-- A list of features, or a table that may hold one and may refuse the default feature. -/
def EnvironmentShaped (v : Value) : Prop :=
  TextList v ∨ (TableOf Anything v ∧ Optionally v "features" TextList ∧
    Optionally v "no-default-feature" fun x => ∃ b, x = .bool b)

/-- A table that describes a workspace. -/
structure WorkspaceShaped (v : Value) : Prop where
  table : TableOf Anything v
  name : Optionally v "name" fun x => ∃ s, x = .text s
  platforms : Optionally v "platforms" TextList

/-- A manifest whose parts have the types their readers ask for. -/
structure WellShaped (v : Value) : Prop extends FeatureShaped v where
  workspace : Optionally v "workspace" WorkspaceShaped
  project : Optionally v "project" WorkspaceShaped
  features : Optionally v "feature" (TableOf FeatureShaped)
  environments : Optionally v "environments" (TableOf EnvironmentShaped)

/-! ### What a table with texts as keys answers -/

/-- The entries of a table whose keys are texts. -/
def fieldsOf : Value → List (String × Value)
  | .table entries => entries.filterMap fun e => match e.1 with
    | .text name => some (name, e.2)
    | _ => none
  | _ => []

theorem fieldsOf_ofFields (fields : List (String × Value)) :
    fieldsOf (.ofFields fields) = fields := by
  simp [fieldsOf, Value.ofFields, List.filterMap_map]

/-- A list with distinct keys gives each of its entries back under its key. -/
theorem lookup_eq_some_iff_mem {α : Type} {fields : List (String × α)}
    (h : (fields.map (·.1)).Nodup) {name : String} {a : α} :
    fields.lookup name = some a ↔ (name, a) ∈ fields := by
  induction fields with
  | nil => simp
  | cons f fields ih =>
    obtain ⟨k, b⟩ := f
    simp only [List.map_cons, List.nodup_cons] at h
    by_cases hk : name = k
    · subst hk
      have hout : (name, a) ∉ fields := fun hm => h.1 (List.mem_map.mpr ⟨_, hm, rfl⟩)
      simp [hout, eq_comm]
    · have hne : (name == k) = false := by simpa using hk
      simp [List.lookup_cons, hne, ih h.2, hk]

/-- A name that no entry has has no value. -/
theorem lookup_eq_none_of_not_mem {α : Type} {fields : List (String × α)} {name : String}
    (h : name ∉ fields.map (·.1)) : fields.lookup name = none := by
  rw [List.lookup_eq_none_iff]
  intro f hf
  simpa using fun he : name = f.1 => h (List.mem_map.mpr ⟨f, hf, he.symm⟩)

namespace TableOf

variable {P : Value → Prop} {v : Value}

/-- The table that a missing table is taken for. -/
theorem empty (P : Value → Prop) : TableOf P (.table []) :=
  ⟨[], rfl, List.nodup_nil, by simp⟩

theorem eq_ofFields (h : TableOf P v) : v = .ofFields (fieldsOf v) := by
  obtain ⟨fields, rfl, -, -⟩ := h
  rw [fieldsOf_ofFields]

theorem nodup (h : TableOf P v) : ((fieldsOf v).map (·.1)).Nodup := by
  obtain ⟨fields, rfl, hn, -⟩ := h
  rwa [fieldsOf_ofFields]

theorem get?_eq (h : TableOf P v) (name : String) : v.get? name = (fieldsOf v).lookup name := by
  conv_lhs => rw [h.eq_ofFields]
  exact Value.get?_ofFields _ name

theorem mem_fieldsOf_iff (h : TableOf P v) {name : String} {x : Value} :
    (name, x) ∈ fieldsOf v ↔ v.get? name = some x := by
  rw [h.get?_eq, lookup_eq_some_iff_mem h.nodup]

theorem value (h : TableOf P v) {f : String × Value} (hf : f ∈ fieldsOf v) : P f.2 := by
  obtain ⟨fields, rfl, -, hP⟩ := h
  rw [fieldsOf_ofFields] at hf
  exact hP f hf

theorem ask_eq (h : TableOf P v) (name : String) (default : Value) :
    v.ask name default = .ok ((v.get? name).getD default) := by
  obtain ⟨fields, rfl, -, -⟩ := h
  rfl

theorem entries_eq (h : TableOf P v) :
    v.entries = .ok ((fieldsOf v).map fun f => (.text f.1, f.2)) := by
  conv_lhs => rw [h.eq_ofFields]
  rfl

theorem members_eq (h : TableOf P v) :
    v.members = .ok ((fieldsOf v).map fun f => .text f.1) := by
  conv_lhs => rw [h.eq_ofFields]
  simp [Value.ofFields, Value.members]

end TableOf

/-- The values of a name are among the fields of that name. -/
theorem Optionally.of_fields {P : Value → Prop} {fields : List (String × Value)} {name : String}
    (h : ∀ f ∈ fields, f.1 = name → P f.2) : Optionally (.ofFields fields) name P := by
  intro x hx
  rw [Value.get?_ofFields, List.lookup_eq_some_iff] at hx
  obtain ⟨before, after, rfl, -⟩ := hx
  exact h (name, x) (by simp) rfl

/-- The value of a name, or an empty table, is a table if the value is. -/
theorem Optionally.tableOf_getD {P : Value → Prop} {v : Value} {name : String}
    (h : Optionally v name (TableOf P)) : TableOf P ((v.get? name).getD (.table [])) := by
  cases hv : v.get? name with
  | none => exact TableOf.empty P
  | some x => exact h x hv

end PinLedger

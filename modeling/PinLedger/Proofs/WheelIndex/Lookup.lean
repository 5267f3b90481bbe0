/-
# What a look-up in a wheel index does

A look-up asks for the wheels of a canonical name. A look-up by version is refused before that if
its version cannot be read. The wheels are those that the index remembers, or else those that the
directory of the name holds now, which are remembered from then on (`Lookup.run_eq`).

Key definitions: `Lookup`, `Lookup.run`, `Lookup.refusal`, `wheelsOf`, `learn`.
Key theorems: `Lookup.run_eq`, `Lookup.answer_eq`, `Lookup.leaves_of_answer_eq_error`,
`lookup_known_leaves`.
-/
import PinLedger.WheelIndex
import PinLedger.Proofs.Outcome

namespace PinLedger.WheelIndex

open Outcome

/-! ### Look-ups -/

/-- What is asked of an index: all wheels of a package, or the first one with a version. -/
inductive Lookup where
  | get (name : String)
  | find (name version : String)
deriving DecidableEq, Repr

/-- What is found. -/
inductive Found where
  | wheels (ws : List Wheel)
  | wheel (w : Option Wheel)
deriving DecidableEq, Repr

namespace Lookup

/-- The canonical name that is looked up. -/
def name : Lookup → String
  | .get name => Name.pypi name
  | .find name _ => Name.pypi name

/-- What a look-up ends in: what is found, and the index that remembers it. -/
def run (t : FileTree) (ix : WheelIndex) : Lookup → Except Failure (Found × WheelIndex)
  | .get name => (ix.get t name).result.map fun p => (.wheels p.1, p.2)
  | .find name version => (ix.find t name version).result.map fun p => (.wheel p.1, p.2)

/-- What a look-up answers. -/
def answer (t : FileTree) (ix : WheelIndex) (l : Lookup) : Except Failure Found :=
  (l.run t ix).map (·.1)

/-- The index after a look-up. One that fails leaves it as it is. -/
def leaves (t : FileTree) (l : Lookup) (ix : WheelIndex) : WheelIndex :=
  match l.run t ix with
  | .ok (_, ix) => ix
  | .error _ => ix

/-- Why a look-up is refused whatever there is. -/
def refusal : Lookup → Option Failure
  | .get _ => none
  | .find name version =>
    match Version.parse? version with
    | none => some (.diagnosed (.packageVersion name version))
    | some _ => if Version.hasLongNumeral version then some (.breakdown .outOfRange) else none

/-- What is looked for among the wheels of the package. -/
def select (ws : List Wheel) : Lookup → Found
  | .get _ => .wheels ws
  | .find _ version =>
    .wheel ((Version.parse? version).bind fun wanted => ws.find? fun w => w.version.same wanted)

end Lookup

/-! ### The wheels of a name -/

/-- The wheels of a canonical name: those that are remembered, or those that are there. -/
def wheelsOf (t : FileTree) (ix : WheelIndex) (name : String) : Except Failure (List Wheel) :=
  match ix.known.lookup name with
  | some wheels => .ok wheels
  | none => (scan t ix.cache name).result

/-- An index that remembers the wheels of a name, unless it did before. -/
def learn (ix : WheelIndex) (name : String) (wheels : List Wheel) : WheelIndex :=
  match ix.known.lookup name with
  | some _ => ix
  | none => { ix with known := ix.known ++ [(name, wheels)] }

theorem wheelsOf_ofCache (t : FileTree) (cache : Path) (name : String) :
    wheelsOf t (ofCache cache) name = (scan t cache name).result := rfl

theorem cache_learn (ix : WheelIndex) (name : String) (wheels : List Wheel) :
    (ix.learn name wheels).cache = ix.cache := by
  unfold learn
  split <;> rfl

/-- What is remembered stays; of other names nothing is learnt. -/
theorem lookup_known_learn (ix : WheelIndex) (name : String) (wheels : List Wheel) (n : String) :
    (ix.learn name wheels).known.lookup n =
      (ix.known.lookup n).or (if n = name then some wheels else none) := by
  unfold learn
  by_cases hn : n = name
  · subst hn
    rw [if_pos rfl]
    cases hk : ix.known.lookup n with
    | some ws => simp [hk]
    | none => simp [List.lookup_append, hk]
  · have hne : (n == name) = false := by simpa using hn
    rw [if_neg hn, Option.or_none]
    cases ix.known.lookup name with
    | some ws => rfl
    | none => simp [List.lookup_append, List.lookup_cons, hne]

theorem result_get (t : FileTree) (ix : WheelIndex) (name : String) : (ix.get t name).result =
    (wheelsOf t ix (Name.pypi name)).map fun ws => (ws, ix.learn (Name.pypi name) ws) := by
  unfold WheelIndex.get wheelsOf learn
  simp only
  cases ix.known.lookup (Name.pypi name) with
  | some ws => rfl
  | none =>
    simp only [Traced.result_bind]
    cases (scan t ix.cache (Name.pypi name)).result <;> rfl

namespace Lookup

variable (t : FileTree) (ix : WheelIndex) (l : Lookup)

/-- A look-up that is not refused answers from the wheels of its name, which the index then
remembers. -/
theorem run_eq : l.run t ix =
    match l.refusal with
    | some e => .error e
    | none => (wheelsOf t ix l.name).map fun ws => (l.select ws, ix.learn l.name ws) := by
  cases l with
  | get name =>
    simp only [Lookup.run, refusal, Lookup.name, select, result_get]
    cases wheelsOf t ix (Name.pypi name) <;> rfl
  | find name version =>
    simp only [Lookup.run, refusal, Lookup.name, select, WheelIndex.find]
    cases Version.parse? version with
    | none => rfl
    | some wanted =>
      cases hlong : Version.hasLongNumeral version with
      | true =>
        simp only [if_true, Traced.result_bind]
        rfl
      | false =>
        simp only [Bool.false_eq_true, if_false, Traced.result_bind, result_get]
        cases wheelsOf t ix (Name.pypi name) <;> rfl

theorem answer_eq : l.answer t ix =
    match l.refusal with
    | some e => .error e
    | none => (wheelsOf t ix l.name).map l.select := by
  unfold answer
  rw [run_eq]
  cases l.refusal with
  | some e => rfl
  | none => cases wheelsOf t ix l.name <;> rfl

/-- Look-ups answer alike where the wheels of their name are the same. -/
theorem answer_congr {t t' : FileTree} {ix ix' : WheelIndex} {l : Lookup}
    (h : wheelsOf t ix l.name = wheelsOf t' ix' l.name) : l.answer t ix = l.answer t' ix' := by
  rw [answer_eq, answer_eq, h]

theorem leaves_eq : l.leaves t ix =
    match l.refusal, wheelsOf t ix l.name with
    | none, .ok ws => ix.learn l.name ws
    | _, _ => ix := by
  unfold leaves
  rw [run_eq]
  cases l.refusal with
  | some e => rfl
  | none => cases wheelsOf t ix l.name <;> rfl

/-- A look-up that fails leaves the index as it was. -/
theorem leaves_of_answer_eq_error {e : Failure} (h : l.answer t ix = .error e) :
    l.leaves t ix = ix := by
  unfold answer at h
  unfold leaves
  cases hrun : l.run t ix with
  | error e => rfl
  | ok p => simp [hrun, Except.map] at h

theorem cache_leaves : (l.leaves t ix).cache = ix.cache := by
  rw [leaves_eq]
  split
  · exact cache_learn ix _ _
  · rfl

/-- What a look-up makes an index remember of a name: what it read, if the name is the one that is
looked up. -/
theorem lookup_known_leaves (n : String) : (l.leaves t ix).known.lookup n =
    (ix.known.lookup n).or (if l.refusal = none ∧ n = l.name then
      (scan t ix.cache n).result.toOption else none) := by
  rw [leaves_eq]
  cases l.refusal with
  | some e => simp
  | none =>
    by_cases hn : n = l.name
    · subst hn
      cases hk : ix.known.lookup l.name with
      | some ws => simp [wheelsOf, hk, lookup_known_learn]
      | none =>
        cases hs : (scan t ix.cache l.name).result with
        | error e => simp [wheelsOf, hk, hs, Except.toOption]
        | ok ws => simp [wheelsOf, hk, hs, lookup_known_learn, Except.toOption]
    · have hlearnt : ∀ ws, (ix.learn l.name ws).known.lookup n = ix.known.lookup n := fun ws => by
        rw [lookup_known_learn, if_neg hn, Option.or_none]
      cases wheelsOf t ix l.name with
      | error e => simp [hn]
      | ok ws => simp [hn, hlearnt]

end Lookup

end PinLedger.WheelIndex

/-
# Values of a document

What a lock file, a manifest or a JSON text holds once it is read: scalars, lists and tables. A
table keeps its entries in the order of their first appearance; its keys are usually texts, but a
document may use any scalar.

Key definitions: `Stamp`, `Value`, `Value.get?`, `Value.truthy`, `Value.sameKey`, `putEntry`.
Key theorems: `Value.get?_ofFields`, `lookup_putField`.
-/
import PinLedger.Number.Shortest

namespace PinLedger.Document

/-- A calendar day. -/
structure Day where
  year : Nat
  month : Nat
  day : Nat
deriving DecidableEq, Repr, Inhabited

/-- A time of day, with the distance to universal time in seconds where it is known. -/
structure Clock where
  hour : Nat
  minute : Nat
  second : Nat
  micro : Nat
  offset : Option Int
deriving DecidableEq, Repr, Inhabited

/-- A day, a time of day, or both. -/
inductive Stamp where
  | day (d : Day)
  | moment (d : Day) (t : Clock)
  | clock (t : Clock)
deriving DecidableEq, Repr, Inhabited

/-- A value of a document. -/
inductive Value where
  | null
  | bool (b : Bool)
  | int (i : Int)
  | float (x : Float)
  | text (s : String)
  | bytes (octets : List UInt8)
  | stamp (s : Stamp)
  | list (items : List Value)
  | set (items : List Value)
  | table (entries : List (Value × Value))
deriving Inhabited

namespace Value

/-- Builds a table with text keys. -/
def ofFields (fields : List (String × Value)) : Value :=
  .table (fields.map fun f => (.text f.1, f.2))

/-- Scalars that are equal as numbers are one key: the truth values stand for 0 and 1. -/
def asNumber? : Value → Option (Sum Int Float)
  | .bool b => some (.inl (if b then 1 else 0))
  | .int i => some (.inl i)
  | .float x => some (match Number.wholeOf? x with
    | some i => .inl i
    | none => .inr x)
  | _ => none

/-- Do two values name the same entry of a table? -/
def sameKey (a b : Value) : Bool :=
  match a.asNumber?, b.asNumber? with
  | some (.inl i), some (.inl j) => i == j
  | some (.inr x), some (.inr y) => x == y
  | some _, _ | _, some _ => false
  | none, none =>
    match a, b with
    | .null, .null => true
    | .text s, .text t => s == t
    | .bytes s, .bytes t => s == t
    | .stamp s, .stamp t => s == t
    | _, _ => false

@[simp] theorem sameKey_text (s t : String) : (text s).sameKey (text t) = (s == t) := rfl

/-- The value under a text key, `none` if there is no such entry or the value is no table. -/
def get? (v : Value) (name : String) : Option Value :=
  match v with
  | .table entries => (entries.find? fun e => e.1.sameKey (.text name)).map (·.2)
  | _ => none

/-- A table with text keys gives the first value of a name. -/
theorem get?_ofFields (fields : List (String × Value)) (name : String) :
    (ofFields fields).get? name = fields.lookup name := by
  unfold ofFields get?
  induction fields with
  | nil => rfl
  | cons f fields ih =>
    obtain ⟨key, v⟩ := f
    by_cases h : key = name
    · subst h
      simp
    · have hne : (name == key) = false := by simpa using Ne.symm h
      simpa [List.find?_cons, List.lookup_cons, h, hne] using ih

/-- Does the value count as true: is it something other than null, false, zero and empty? -/
def truthy : Value → Bool
  | .null => false
  | .bool b => b
  | .int i => i != 0
  | .float x => x != 0.0
  | .text s => s != ""
  | .bytes b => !b.isEmpty
  | .stamp _ => true
  | .list items => !items.isEmpty
  | .set items => !items.isEmpty
  | .table entries => !entries.isEmpty

end Value

/-- Sets an entry: the value of an equal key is replaced in place, a new key goes last. -/
def putEntry (entries : List (Value × Value)) (key value : Value) : List (Value × Value) :=
  if entries.any fun e => e.1.sameKey key then
    entries.map fun e => if e.1.sameKey key then (e.1, value) else e
  else entries ++ [(key, value)]

/-- Sets the value of a name: an equal name is replaced in place, a new one goes last. -/
def putField {α : Type} (fields : List (String × α)) (name : String) (value : α) :
    List (String × α) :=
  if fields.any fun f => f.1 == name then
    fields.map fun f => if f.1 == name then (f.1, value) else f
  else fields ++ [(name, value)]

/-- Setting the value of a name where it stands. -/
theorem lookup_map_set {α : Type} (fields : List (String × α)) (name : String) (value : α)
    (k : String) : (fields.map fun f => if f.1 == name then (f.1, value) else f).lookup k =
      if k = name then (fields.lookup k).map fun _ => value else fields.lookup k := by
  induction fields with
  | nil => simp
  | cons f fields ih =>
    obtain ⟨key, v⟩ := f
    by_cases hk : key = name <;> by_cases h : k = key
    · subst hk h
      simp
    · subst hk
      have hne : (k == key) = false := by simpa using h
      simpa [List.lookup_cons, hne] using ih
    · subst h
      simp [hk]
    · have hne : (k == key) = false := by simpa using h
      simpa [List.lookup_cons, hk, hne] using ih

/-- Only the name that is set gets another value. -/
theorem lookup_putField {α : Type} (fields : List (String × α)) (name : String) (value : α)
    (k : String) :
    (putField fields name value).lookup k = if k = name then some value else fields.lookup k := by
  have hmem : (fields.any fun f => f.1 == name) = (fields.lookup name).isSome := by
    rw [Bool.eq_iff_iff, List.lookup_isSome_iff]
    simp only [List.any_eq_true, beq_iff_eq, @eq_comm _ name]
  unfold putField
  rw [hmem]
  by_cases h : k = name
  · subst h
    rw [if_pos rfl]
    cases hv : fields.lookup k with
    | none => simp [List.lookup_append, hv]
    | some v => rw [Option.isSome_some, if_pos rfl, lookup_map_set, if_pos rfl, hv, Option.map_some]
  · have hne : (k == name) = false := by simpa using h
    rw [if_neg h]
    split
    · rw [lookup_map_set, if_neg h]
    · simp [List.lookup_append, List.lookup_cons, hne]

end PinLedger.Document

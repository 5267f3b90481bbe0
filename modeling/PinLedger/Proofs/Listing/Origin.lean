/-
# Where listed packages come from

A listed package has its name, its version and its flags from its record. Its size and its source
are its origin. A conda record gives its origin itself, and a pypi record that of its location; only
a pypi record with a hash is looked for among the cached wheels, if there is an index. Where the
tree stays as it is, it does not matter what the index remembers of the records before.

Key definitions: `Package.bare`, `cachedOrigin`, `originOf`, `Selection.kept`.
Key theorems: `result_ofRecords`, `list_eq_ok`, `map_bare_of_list`.
-/
import PinLedger.Proofs.Listing.Explicit
import PinLedger.Proofs.WheelIndex.Lookup

namespace PinLedger

open Outcome

/-! ### Indexes in a tree that stays -/

namespace WheelIndex

/-- An index remembers what is there. -/
def Agrees (t : FileTree) (ix : WheelIndex) : Prop :=
  ∀ name, wheelsOf t ix name = (scan t ix.cache name).result

variable {t : FileTree} {ix : WheelIndex}

theorem agrees_ofCache (t : FileTree) (cache : Path) : Agrees t (ofCache cache) :=
  wheelsOf_ofCache t cache

/-- A look-up answers what a new index answers. -/
theorem Agrees.answer (h : ix.Agrees t) (l : Lookup) :
    l.answer t ix = l.answer t (ofCache ix.cache) :=
  Lookup.answer_congr (h l.name)

/-- An index goes on to remember what is there. -/
theorem Agrees.leaves (h : ix.Agrees t) (l : Lookup) : (l.leaves t ix).Agrees t := by
  intro name
  have hname := h name
  unfold wheelsOf at hname ⊢
  rw [Lookup.lookup_known_leaves, Lookup.cache_leaves]
  cases hk : ix.known.lookup name with
  | some wheels =>
    rw [hk] at hname
    exact hname
  | none =>
    rw [Option.none_or]
    split
    · next wheels hread =>
      split at hread
      · cases hscan : (scan t ix.cache name).result with
        | error e => simp [hscan, Except.toOption] at hread
        | ok ws => simpa [hscan, Except.toOption, eq_comm] using hread
      · simp at hread
    · rfl

end WheelIndex

/-! ### Origins -/

namespace Record

/-- Is it a pypi record with a hash? -/
def hasHash : Record → Bool
  | .pypi r => r.hash.isSome
  | _ => false

end Record

/-- The origin of a pypi package by its name and version among the wheels of a cache. -/
def cachedOrigin (t : FileTree) (cache : Path) (name version : String) :
    Except Failure Package.Origin := do
  match ← (WheelIndex.Lookup.find name version).answer t (.ofCache cache) with
  | .wheel (some w) => return ⟨some (← (t.sizeAt w.path).result), some w.fileName⟩
  | _ => return ⟨none, none⟩

/-- The origin of the package of a record. -/
def originOf (t : FileTree) (root : Path) (cache : Option Path) :
    Record → Except Failure Package.Origin
  | .archive r => .ok ⟨r.size, r.channel⟩
  | .source r => .ok ⟨none, some r.location⟩
  | .pypi r =>
    match r.hash, cache with
    | some _, some cache => cachedOrigin t cache (Name.pypi r.name) r.version
    | _, _ => (Package.originOfLocation t (some root) r.location).result

variable {t : FileTree}

theorem result_originOfWheel {ix : WheelIndex} (h : ix.Agrees t) (name version : String) :
    (Package.originOfWheel t ix name version).result =
      (cachedOrigin t ix.cache name version).map fun o =>
        (o, (WheelIndex.Lookup.find name version).leaves t ix) := by
  have hrun : (WheelIndex.Lookup.find name version).run t ix =
      (ix.find t name version).result.map fun p => (.wheel p.1, p.2) := rfl
  unfold Package.originOfWheel cachedOrigin
  rw [← h.answer, Traced.result_bind, WheelIndex.Lookup.answer, WheelIndex.Lookup.leaves, hrun]
  cases (ix.find t name version).result with
  | error e => rfl
  | ok p =>
    obtain ⟨found, ix'⟩ := p
    cases found with
    | none => rfl
    | some w =>
      change (t.sizeAt w.path >>= _).result = Except.map _ ((t.sizeAt w.path).result >>= _)
      rw [Traced.result_bind]
      cases (t.sizeAt w.path).result <;> rfl

theorem originOf_pypi (root : Path) (cache : Option Path) (r : PypiRecord) :
    originOf t root cache (.pypi r) =
      match r.hash, cache with
      | some _, some cache => cachedOrigin t cache (Name.pypi r.name) r.version
      | _, _ => (Package.originOfLocation t (some root) r.location).result := rfl

/-- A pypi package with a hash has the origin of its wheel if there is an index. -/
theorem originOf_pypi_eq_cached {root cache : Path} {r : PypiRecord} {hash : String}
    (h : r.hash = some hash) : originOf t root (some cache) (.pypi r) =
      cachedOrigin t cache (Name.pypi r.name) r.version := by
  rw [originOf_pypi, h]

/-- A pypi package without a hash, or without an index, has the origin of its location. -/
theorem originOf_pypi_eq_located {root : Path} {cache : Option Path} {r : PypiRecord}
    (h : r.hash = none ∨ cache = none) :
    originOf t root cache (.pypi r) =
      (Package.originOfLocation t (some root) r.location).result := by
  rw [originOf_pypi]
  rcases h with h | rfl
  · rw [h]
  · cases r.hash <;> rfl

theorem originOfPypi_eq_located {root : Path} {index : Option WheelIndex} {name : String}
    {r : PypiRecord} (h : r.hash = none ∨ index = none) :
    Package.originOfPypi t index (some root) name r =
      (do return (← Package.originOfLocation t (some root) r.location, index)) := by
  unfold Package.originOfPypi
  rcases h with h | rfl
  · rw [h]
  · cases r.hash <;> rfl

theorem result_originOfPypi_cached {ix : WheelIndex} (hix : ix.Agrees t) {root : Option Path}
    {name : String} {r : PypiRecord} {hash : String} (hhash : r.hash = some hash) :
    (Package.originOfPypi t (some ix) root name r).result =
      (cachedOrigin t ix.cache name r.version).map fun o =>
        (o, some ((WheelIndex.Lookup.find name r.version).leaves t ix)) := by
  unfold Package.originOfPypi
  rw [hhash]
  change (Package.originOfWheel t ix name r.version >>= _).result = _
  rw [Traced.result_bind, result_originOfWheel hix]
  cases cachedOrigin t ix.cache name r.version <;> rfl

theorem result_ofRecord_pypi (explicit : List String) (root : Option Path)
    (index : Option WheelIndex) (r : PypiRecord) :
    (Package.ofRecord t explicit root index (.pypi r)).result =
      (Package.originOfPypi t index root (Name.pypi r.name) r).result.map fun p =>
        (packageOf explicit p.1 (.pypi r), p.2) := by
  change (Package.originOfPypi t index root (Name.pypi r.name) r >>= _).result = _
  rw [Traced.result_bind]
  cases (Package.originOfPypi t index root (Name.pypi r.name) r).result <;> rfl

/-- The package of a record. The index that comes back is of the same cache, and it remembers what
is there. -/
theorem result_ofRecord (explicit : List String) (root : Path) {index : Option WheelIndex}
    (h : ∀ ix ∈ index, ix.Agrees t) (record : Record) :
    ∃ index' : Option WheelIndex, (∀ ix ∈ index', ix.Agrees t) ∧
      index'.map (·.cache) = index.map (·.cache) ∧
      (Package.ofRecord t explicit (some root) index record).result =
        (originOf t root (index.map (·.cache)) record).map fun o =>
          (packageOf explicit o record, index') := by
  cases record with
  | archive r => exact ⟨index, h, rfl, rfl⟩
  | source r => exact ⟨index, h, rfl, rfl⟩
  | pypi r =>
    by_cases hlocated : r.hash = none ∨ index = none
    · have hcache : r.hash = none ∨ index.map (·.cache) = none :=
        hlocated.imp_right fun hnone => by rw [hnone]; rfl
      refine ⟨index, h, rfl, ?_⟩
      rw [result_ofRecord_pypi, originOfPypi_eq_located hlocated,
        originOf_pypi_eq_located hcache, Traced.result_bind]
      cases (Package.originOfLocation t (some root) r.location).result <;> rfl
    · obtain ⟨hhash, hindex⟩ := not_or.mp hlocated
      obtain ⟨hash, hhash⟩ := Option.ne_none_iff_exists'.mp hhash
      obtain ⟨ix, rfl⟩ := Option.ne_none_iff_exists'.mp hindex
      have hix : ix.Agrees t := h ix rfl
      let l := WheelIndex.Lookup.find (Name.pypi r.name) r.version
      refine ⟨some (l.leaves t ix), ?_, ?_, ?_⟩
      · intro ix' hix'
        rw [← Option.some.inj hix']
        exact hix.leaves l
      · exact congrArg some (WheelIndex.Lookup.cache_leaves t ix l)
      · rw [result_ofRecord_pypi, result_originOfPypi_cached hix hhash, Option.map_some,
          originOf_pypi_eq_cached hhash]
        cases cachedOrigin t ix.cache (Name.pypi r.name) r.version <;> rfl

/-- The packages of records are those of the single records. -/
theorem result_ofRecords (explicit : List String) (root : Path) {index : Option WheelIndex}
    (h : ∀ ix ∈ index, ix.Agrees t) (records : List Record) :
    (Package.ofRecords t explicit (some root) index records).result =
      records.mapM fun r =>
        (packageOf explicit · r) <$> originOf t root (index.map (·.cache)) r := by
  induction records generalizing index with
  | nil => rfl
  | cons record rest ih =>
    obtain ⟨index', hagrees, hcache, hresult⟩ := result_ofRecord explicit root h record
    unfold Package.ofRecords
    rw [Traced.result_bind, hresult, List.mapM_cons]
    cases originOf t root (index.map (·.cache)) record with
    | error e => rfl
    | ok o =>
      change (Package.ofRecords t explicit (some root) index' rest >>= _).result = _
      rw [Traced.result_bind, ih hagrees, hcache]
      rfl

/-! ### Listings -/

/-- A package without what is known of its origin. -/
def Package.bare (p : Package) : Package := { p with size := none, source := none }

theorem Package.eq_of_bare_eq {p p' : Package} (hbare : p'.bare = p.bare)
    (hsize : p'.size = p.size) (hsource : p'.source = p.source) : p' = p := by
  have hp : ∀ p : Package, p = { p.bare with size := p.size, source := p.source } := fun _ => rfl
  rw [hp p, hp p', hbare, hsize, hsource]

/-- The package of a record without its origin. -/
def bareOf (explicit : List String) (record : Record) : Package :=
  packageOf explicit ⟨none, none⟩ record

theorem bare_packageOf (explicit : List String) (origin : Package.Origin) (record : Record) :
    (packageOf explicit origin record).bare = bareOf explicit record := rfl

/-- Is a package kept, by its name and by whether it is explicit? -/
def keeps (pattern : Option (String → Bool)) (explicitOnly : Bool) (p : Package) : Bool :=
  (match pattern with
    | some matchesName => matchesName p.name
    | none => true) && (!explicitOnly || p.isExplicit)

theorem filterPackages_eq_filter (pattern : Option (String → Bool)) (explicitOnly : Bool)
    (ps : List Package) :
    filterPackages pattern explicitOnly ps = ps.filter (keeps pattern explicitOnly) := by
  unfold filterPackages keeps
  cases pattern <;> cases explicitOnly <;> simp [List.filter_filter, Bool.and_comm]

/-- The records of a selection whose packages a query keeps. -/
def Selection.kept (q : Query) (sel : Selection) : List Record :=
  sel.records.filter fun r => keeps sel.pattern q.explicitOnly (bareOf sel.explicit r)

/-- An index of a listing remembers nothing at first. -/
theorem indexFor_eq_ok {s : Surroundings} {noInstall : Bool} {records : List Record}
    {index : Option WheelIndex} (h : (indexFor s noInstall records).result = .ok index) :
    ∀ ix ∈ index, ix = .ofCache ix.cache := by
  unfold indexFor at h
  split at h
  · obtain rfl := Except.ok.inj h
    simp
  · simp only [Traced.result_bind, bind_eq_ok_iff] at h
    obtain ⟨cache, -, found, -, h⟩ := h
    cases found with
    | true =>
      obtain rfl := Except.ok.inj h
      intro ix hix
      rw [← Option.some.inj hix]
      rfl
    | false =>
      obtain rfl := Except.ok.inj h
      simp

theorem agrees_of_indexFor {s : Surroundings} {noInstall : Bool} {records : List Record}
    {index : Option WheelIndex} (h : (indexFor s noInstall records).result = .ok index) :
    ∀ ix ∈ index, ix.Agrees s.tree := fun ix hix => by
  rw [indexFor_eq_ok h ix hix]
  exact WheelIndex.agrees_ofCache s.tree ix.cache

/-- A package is that of a record and has its origin. -/
def IsListed (t : FileTree) (root : Path) (explicit : List String) (index : Option WheelIndex)
    (r : Record) (p : Package) : Prop :=
  p.bare = bareOf explicit r ∧
    originOf t root (index.map (·.cache)) r = .ok ⟨p.size, p.source⟩

/-- The packages of a listing are those of the records that are kept, one by one. -/
theorem list_eq_ok {s : Surroundings} {w : Workspace} {q : Query} {ps : List Package}
    (h : (Workspace.list s q).outcome w = .ok ps) :
    ∃ sel index, (Workspace.select s q).outcome w = .ok sel ∧
      (indexFor s q.noInstall sel.records).result = .ok index ∧
      List.Forall₂ (IsListed s.tree sel.lock.root sel.explicit index) (sel.kept q) ps := by
  obtain ⟨sel, all, hsel, -, hall, hkept, -⟩ := list_eq_ok_iff.mp h
  unfold Selection.packages at hall
  rw [Traced.result_bind, bind_eq_ok_iff] at hall
  obtain ⟨index, hindex, hall⟩ := hall
  rw [result_ofRecords sel.explicit sel.lock.root (agrees_of_indexFor hindex),
    mapM_eq_ok_iff] at hall
  have hlisted : List.Forall₂ (IsListed s.tree sel.lock.root sel.explicit index)
      sel.records all := hall.imp fun r p hp => by
    obtain ⟨o, ho, hp⟩ := bind_eq_ok_iff.mp hp
    obtain rfl := Except.ok.inj hp
    exact ⟨bare_packageOf sel.explicit o r, ho⟩
  refine ⟨sel, index, hsel, hindex, ?_⟩
  rw [← hkept, filterPackages_eq_filter]
  refine List.rel_filter (fun r p hp => ?_) hlisted
  change keeps sel.pattern q.explicitOnly (bareOf sel.explicit r) = true ↔ _
  rw [← hp.1]
  rfl

/-- A listing without the origins is a matter of the selection alone. -/
theorem map_bare_of_list {s : Surroundings} {w : Workspace} {q : Query} {sel : Selection}
    (hsel : (Workspace.select s q).outcome w = .ok sel) {ps : List Package}
    (h : (Workspace.list s q).outcome w = .ok ps) :
    ps.map Package.bare = (sel.kept q).map (bareOf sel.explicit) := by
  obtain ⟨sel', index, hsel', -, hlisted⟩ := list_eq_ok h
  obtain rfl : sel = sel' := Except.ok.inj (hsel.symm.trans hsel')
  clear h
  generalize sel.kept q = records at hlisted ⊢
  induction hlisted with
  | nil => rfl
  | cons hp _ ih => rw [List.map_cons, List.map_cons, hp.1, ih]

end PinLedger

/-
# What the wheel cache can change

Two listings of one workspace that differ in the wheel cache only, or in whether it is looked at,
list packages of the same records. They can differ in the size and the source of pypi packages with
a hash, and in nothing else. With an index these come from the cached wheels, whatever the location
of the record is; without one they come from the location, whatever is cached.

Key definitions: `FromCache`, `FromLocation`, `AgreeButForWheels`.
Key theorems: `fromCache_of_isListed`, `fromLocation_of_isListed`, `listings_agree_but_for_wheels`.
-/
import PinLedger.Proofs.Files.Walk
import PinLedger.Proofs.Listing.Origin
import PinLedger.Proofs.WheelIndex.Reading
import PinLedger.Proofs.Workspace.Calls

namespace PinLedger

open Outcome

/-! ### The two origins of a pypi package with a hash -/

/-- A package has the size and the source of the first cached wheel of its version, and neither if
no wheel of its name has an equal version. -/
def FromCache (t : FileTree) (cache : Path) (p : Package) : Prop :=
  ∃ wheels wanted, (WheelIndex.scan t cache (Name.pypi p.name)).result = .ok wheels ∧
    Version.parse? p.version = some wanted ∧
    match wheels.find? fun w => w.version.same wanted with
    | some w => ∃ n : Nat, (t.sizeAt w.path).result = .ok n ∧ p.size = some (n : Int) ∧
        p.source = some w.fileName
    | none => p.size = none ∧ p.source = none

/-- A package has the url and no size, or the path as it is written and the size of what is there,
seen from the directory of the lock file. -/
def FromLocation (t : FileTree) (root : Path) (location : Location) (p : Package) : Prop :=
  match location with
  | .url url => p.size = none ∧ p.source = some url
  | .path text => p.source = some text ∧
      ∃ n : Nat, (t.sizeAt (root.join (Path.ofText text))).result = .ok n ∧ p.size = some (n : Int)

theorem fromCache_of_cachedOrigin {t : FileTree} {cache : Path} {p : Package}
    (h : cachedOrigin t cache p.name p.version = .ok ⟨p.size, p.source⟩) :
    FromCache t cache p := by
  unfold cachedOrigin at h
  obtain ⟨found, hfound, h⟩ := bind_eq_ok_iff.mp h
  rw [WheelIndex.Lookup.answer_eq, WheelIndex.wheelsOf_ofCache] at hfound
  cases hwanted : Version.parse? p.version with
  | none => simp [WheelIndex.Lookup.refusal, hwanted] at hfound
  | some wanted =>
    cases hlong : Version.hasLongNumeral p.version with
    | true => simp [WheelIndex.Lookup.refusal, hwanted, hlong] at hfound
    | false =>
      cases hscan : (WheelIndex.scan t cache (Name.pypi p.name)).result with
      | error e =>
        simp [WheelIndex.Lookup.refusal, WheelIndex.Lookup.name, hwanted, hlong, hscan,
          Except.map] at hfound
      | ok wheels =>
        obtain rfl : .wheel (wheels.find? fun w => w.version.same wanted) = found := by
          simpa [WheelIndex.Lookup.refusal, WheelIndex.Lookup.name, WheelIndex.Lookup.select,
            hwanted, hlong, hscan, Except.map] using hfound
        refine ⟨wheels, wanted, hscan, hwanted, ?_⟩
        cases hwheel : wheels.find? fun w => w.version.same wanted with
        | none =>
          rw [hwheel] at h
          obtain ⟨hsize, hsource⟩ := Package.Origin.mk.inj (Except.ok.inj h)
          exact ⟨hsize.symm, hsource.symm⟩
        | some w =>
          rw [hwheel] at h
          obtain ⟨n, hn, h⟩ := bind_eq_ok_iff.mp h
          obtain ⟨hsize, hsource⟩ := Package.Origin.mk.inj (Except.ok.inj h)
          exact ⟨n, hn, hsize.symm, hsource.symm⟩

theorem fromLocation_of_originOfLocation {t : FileTree} {root : Path} {location : Location}
    {p : Package}
    (h : (Package.originOfLocation t (some root) location).result = .ok ⟨p.size, p.source⟩) :
    FromLocation t root location p := by
  cases location with
  | url url =>
    obtain ⟨hsize, hsource⟩ := Package.Origin.mk.inj (Except.ok.inj h)
    exact ⟨hsize.symm, hsource.symm⟩
  | path text =>
    unfold Package.originOfLocation at h
    rw [Traced.result_bind] at h
    obtain ⟨n, hn, h⟩ := bind_eq_ok_iff.mp h
    obtain ⟨hsize, hsource⟩ := Package.Origin.mk.inj (Except.ok.inj h)
    exact ⟨hsource.symm, n, hn, hsize.symm⟩

/-! ### Two listings -/

/-- Two packages of a record in listings with these indexes. -/
structure AgreeButForWheels (t : FileTree) (root : Path) (index index' : Option WheelIndex)
    (r : Record) (p p' : Package) : Prop where
  /-- They have the name, version, build, kind and flags of the record. -/
  bare : p'.bare = p.bare
  name : p.name = r.normalizedName
  version : p.version = r.version
  /-- They are the same, but for a pypi record with a hash. -/
  same : r.hasHash = false → p' = p
  /-- With an index the cached wheels decide about such a record, without one its location. -/
  hashed : ∀ pypi, r = .pypi pypi → pypi.hash ≠ none →
    (∀ ix, index = some ix → FromCache t ix.cache p) ∧
    (index = none → FromLocation t root pypi.location p) ∧
    (∀ ix, index' = some ix → FromCache t ix.cache p') ∧
    (index' = none → FromLocation t root pypi.location p')

theorem exists_rows {α β γ : Type} {R : α → β → Prop} {S : α → γ → Prop} {as : List α}
    {bs : List β} {cs : List γ} (hR : List.Forall₂ R as bs) (hS : List.Forall₂ S as cs) :
    ∃ rows : List (α × β × γ), rows.map (·.1) = as ∧ rows.map (·.2.1) = bs ∧
      rows.map (·.2.2) = cs ∧ ∀ row ∈ rows, R row.1 row.2.1 ∧ S row.1 row.2.2 := by
  induction hR generalizing cs with
  | nil =>
    obtain rfl := List.forall₂_nil_left_iff.mp hS
    exact ⟨[], rfl, rfl, rfl, by simp⟩
  | @cons a b as bs hab _ ih =>
    obtain ⟨c, cs, hac, hacs, rfl⟩ := List.forall₂_cons_left_iff.mp hS
    obtain ⟨rows, rfl, rfl, rfl, hrows⟩ := ih hacs
    exact ⟨(a, b, c) :: rows, rfl, rfl, rfl, List.forall_mem_cons.mpr ⟨⟨hab, hac⟩, hrows⟩⟩

variable {t : FileTree} {root : Path} {explicit : List String} {index index' : Option WheelIndex}
  {r : Record} {p p' : Package}

namespace IsListed

theorem name (h : IsListed t root explicit index r p) : p.name = r.normalizedName :=
  congrArg Package.name h.1

theorem version (h : IsListed t root explicit index r p) : p.version = r.version :=
  congrArg Package.version h.1

theorem fromCache {ix : WheelIndex} {pypi : PypiRecord}
    (h : IsListed t root explicit (some ix) (.pypi pypi) p) (hhash : pypi.hash ≠ none) :
    FromCache t ix.cache p := by
  obtain ⟨hash, hhash⟩ := Option.ne_none_iff_exists'.mp hhash
  have horigin := h.2
  rw [Option.map_some, originOf_pypi_eq_cached hhash] at horigin
  have hname : p.name = Name.pypi pypi.name := h.name
  have hversion : p.version = pypi.version := h.version
  rw [← hname, ← hversion] at horigin
  exact fromCache_of_cachedOrigin horigin

theorem fromLocation {pypi : PypiRecord} (h : IsListed t root explicit none (.pypi pypi) p) :
    FromLocation t root pypi.location p := by
  have horigin := h.2
  rw [Option.map_none, originOf_pypi_eq_located (.inr rfl)] at horigin
  exact fromLocation_of_originOfLocation horigin

/-- The origin is the same with any index if the record is no pypi record with a hash. -/
theorem origin_eq (h : IsListed t root explicit index r p)
    (h' : IsListed t root explicit index' r p') (hhash : r.hasHash = false) :
    p'.size = p.size ∧ p'.source = p.source := by
  have horigin : originOf t root (index'.map (·.cache)) r = originOf t root (index.map (·.cache)) r := by
    cases r with
    | archive r => rfl
    | source r => rfl
    | pypi r =>
      have hnone : r.hash = none := by simpa [Record.hasHash] using hhash
      rw [originOf_pypi_eq_located (.inl hnone), originOf_pypi_eq_located (.inl hnone)]
  have hsame := h'.2.symm.trans (horigin.trans h.2)
  exact Package.Origin.mk.inj (Except.ok.inj hsame)

theorem agreeButForWheels (h : IsListed t root explicit index r p)
    (h' : IsListed t root explicit index' r p') :
    AgreeButForWheels t root index index' r p p' where
  bare := h'.1.trans h.1.symm
  name := h.name
  version := h.version
  same := fun hhash => by
    obtain ⟨hsize, hsource⟩ := h.origin_eq h' hhash
    exact Package.eq_of_bare_eq (h'.1.trans h.1.symm) hsize hsource
  hashed := by
    rintro pypi rfl hhash
    refine ⟨?_, ?_, ?_, ?_⟩
    · rintro ix rfl
      exact h.fromCache hhash
    · rintro rfl
      exact h.fromLocation
    · rintro ix rfl
      exact h'.fromCache hhash
    · rintro rfl
      exact h'.fromLocation

end IsListed

/-- Two listings that differ in the wheel cache only are lists of packages of the same records. -/
theorem listings_agree_but_for_wheels {s s' : Surroundings} {w w' : Workspace} {q : Query}
    {noInstall : Bool} (htree : s'.tree = s.tree) (hplatform : s'.platform = s.platform)
    (henvironment : s'.setting? Workspace.environmentVariable =
      s.setting? Workspace.environmentVariable)
    (hw : w' = w ∨ w' = (Workspace.list s q).leaves w) {ps ps' : List Package}
    (h : (Workspace.list s q).outcome w = .ok ps)
    (h' : (Workspace.list s' { q with noInstall }).outcome w' = .ok ps') :
    ∃ (sel : Selection) (index index' : Option WheelIndex)
      (rows : List (Record × Package × Package)),
      (Workspace.select s q).outcome w = .ok sel ∧
      (indexFor s q.noInstall sel.records).result = .ok index ∧
      (indexFor s' noInstall sel.records).result = .ok index' ∧
      rows.map (·.1) = sel.kept q ∧ rows.map (·.2.1) = ps ∧ rows.map (·.2.2) = ps' ∧
      ∀ row ∈ rows,
        AgreeButForWheels s.tree sel.lock.root index index' row.1 row.2.1 row.2.2 := by
  have htried : w' = w ∨ w' = Workspace.tried s w := by
    rcases hw with hw | hw
    · exact .inl hw
    · rw [hw, Workspace.leaves_list, Workspace.leaves_select]
      split
      · exact .inr rfl
      · exact .inl rfl
  have halike : Workspace.Alike s s' w w' := .of_tree htree henvironment hplatform htried
  have hselect : (Workspace.select s' { q with noInstall }).outcome w' =
      (Workspace.select s q).outcome w :=
    halike.outcome_select (q := { q with noInstall }) fun _ _ _ _ => by rw [htree]
  obtain ⟨sel, index, hsel, hindex, hlisted⟩ := list_eq_ok h
  obtain ⟨sel', index', hsel', hindex', hlisted'⟩ := list_eq_ok h'
  obtain rfl : sel = sel' := Except.ok.inj (hsel.symm.trans (hselect.symm.trans hsel'))
  rw [htree] at hlisted'
  obtain ⟨rows, hrecords, hps, hps', hrows⟩ := exists_rows hlisted hlisted'
  exact ⟨sel, index, index', rows, hsel, hindex, hindex', hrecords, hps, hps', fun row hrow =>
    (hrows row hrow).1.agreeButForWheels (hrows row hrow).2⟩

/-! ### A package that is not cached -/

/-- A package table with a pypi package from an index. -/
def hashedTable : List (Entry.Key × Record) := [
  (⟨"conda", "./zlib"⟩, .source ⟨"zlib", "1", "0", none, "./zlib", []⟩),
  (⟨"pypi", "https://p.org/t"⟩,
    .pypi ⟨"Py_Test", "1", some "0f", false, .url "https://p.org/t", []⟩)]

/-- The lock file that locks it for one platform. -/
def hashedLock : LockFile where
  path := ⟨.here, ["pixi.lock"]⟩
  document := ⟨6, [(defaultName, [("linux-64", [[("conda", .text "./zlib")],
    [("pypi", .text "https://p.org/t")]])])], []⟩
  table := hashedTable

/-- A workspace with this lock file. -/
def hashedWorkspace : Workspace := { smallWorkspace with lock := some hashedLock }

/-- Surroundings without files, whose top directory is the wheel cache. -/
def cachedSurroundings : Surroundings :=
  { bareSurroundings with settings := [("LOCKVIEW_CACHE_DIR", "/")] }

theorem find_pyTest : cachedSurroundings.tree.find ⟨.top, ["py-test"]⟩ = .error .missing :=
  FileTree.find_top_missing rfl (by decide) (by decide) rfl

theorem cachedOrigin_pyTest :
    cachedOrigin cachedSurroundings.tree ⟨.top, []⟩ (Name.pypi "Py_Test") "1" =
      .ok ⟨none, none⟩ := by
  have hrefusal : (WheelIndex.Lookup.find (Name.pypi "Py_Test") "1").refusal = none := by
    decide +kernel
  have hdir : WheelIndex.dirOf ⟨.top, []⟩ (Name.pypi (Name.pypi "Py_Test")) =
      ⟨.top, ["py-test"]⟩ := by decide +kernel
  unfold cachedOrigin
  rw [WheelIndex.Lookup.answer_eq, hrefusal]
  simp only [WheelIndex.wheelsOf_ofCache, WheelIndex.Lookup.name]
  rw [WheelIndex.result_scan, hdir, find_pyTest]
  rfl

theorem indexFor_cachedSurroundings :
    (indexFor cachedSurroundings false (hashedTable.map (·.2))).result =
      .ok (some (.ofCache ⟨.top, []⟩)) := by
  have hcache : cachedSurroundings.wheelCache = .ok ⟨.top, []⟩ := by decide +kernel
  have hthere : cachedSurroundings.tree.isDir? ⟨.top, []⟩ = .ok true := by
    rw [FileTree.isDir?, FileTree.find_top]
    rfl
  change (ofExcept cachedSurroundings.wheelCache >>= _ : Traced (Option WheelIndex)).result = _
  rw [hcache]
  change (Traced.ofAnswer (cachedSurroundings.tree.isDir? ⟨.top, []⟩) >>= _).result = _
  rw [hthere]
  rfl

/-- Without an index the pypi package has the url of its record. With an index it has no source, as
it is not cached. -/
theorem listings_of_hashedWorkspace :
    ∃ (ps ps' : List Package) (root : Path) (index index' : Option WheelIndex)
      (rows : List (Record × Package × Package)),
      (Workspace.list bareSurroundings { noInstall := true }).outcome hashedWorkspace = .ok ps ∧
      (Workspace.list cachedSurroundings {}).outcome hashedWorkspace = .ok ps' ∧
      rows.map (·.2.1) = ps ∧ rows.map (·.2.2) = ps' ∧
      (∀ row ∈ rows, AgreeButForWheels bareSurroundings.tree root index index' row.1 row.2.1
        row.2.2) ∧
      ps.map (·.source) = [some "./zlib", some "https://p.org/t"] ∧
      ps'.map (·.source) = [some "./zlib", none] := by
  let sel : Selection := ⟨none, .default, "linux-64", hashedLock, hashedTable.map (·.2),
    ["numpy", "py-test"]⟩
  let zlib : Package := ⟨"zlib", "1", some "0", none, .conda, some "./zlib", false, false⟩
  let pyTest : Package := ⟨"py-test", "1", none, none, .pypi, none, true, false⟩
  have hsel : (Workspace.select bareSurroundings { noInstall := true }).outcome hashedWorkspace =
      .ok sel := rfl
  have hall : (sel.packages bareSurroundings true).result =
      .ok [zlib, { pyTest with source := some "https://p.org/t" }] := by decide +kernel
  have h : (Workspace.list bareSurroundings { noInstall := true }).outcome hashedWorkspace =
      .ok [zlib, { pyTest with source := some "https://p.org/t" }] :=
    list_eq_ok_iff.mpr ⟨sel, _, hsel, by simp, hall, rfl, by simp⟩
  have hsel' : (Workspace.select cachedSurroundings {}).outcome hashedWorkspace = .ok sel := rfl
  have hall' : (sel.packages cachedSurroundings false).result = .ok [zlib, pyTest] := by
    have hagrees : ∀ ix ∈ some (WheelIndex.ofCache ⟨.top, []⟩),
        ix.Agrees cachedSurroundings.tree := fun ix hix => by
      rw [← Option.some.inj hix]
      exact WheelIndex.agrees_ofCache _ _
    unfold Selection.packages
    rw [Traced.result_bind, indexFor_cachedSurroundings]
    change (Package.ofRecords cachedSurroundings.tree sel.explicit (some sel.lock.root)
      (some (.ofCache ⟨.top, []⟩)) sel.records).result = _
    rw [result_ofRecords sel.explicit sel.lock.root hagrees, mapM_eq_ok_iff]
    refine .cons rfl (.cons ?_ .nil)
    change _ <$> cachedOrigin cachedSurroundings.tree ⟨.top, []⟩ (Name.pypi "Py_Test") "1" = _
    rw [cachedOrigin_pyTest]
    rfl
  have h' : (Workspace.list cachedSurroundings {}).outcome hashedWorkspace = .ok [zlib, pyTest] :=
    list_eq_ok_iff.mpr ⟨sel, _, hsel', by simp, hall', rfl, by simp⟩
  have htree : cachedSurroundings.tree = bareSurroundings.tree := rfl
  obtain ⟨sel, index, index', rows, -, -, -, -, hps, hps', hrows⟩ :=
    listings_agree_but_for_wheels htree rfl rfl (.inl rfl) h h'
  exact ⟨_, _, sel.lock.root, index, index', rows, h, h', hps, hps', hrows, rfl, rfl⟩

end PinLedger

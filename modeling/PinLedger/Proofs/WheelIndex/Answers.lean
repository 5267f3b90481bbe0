/-
# What look-ups in a new index answer

The look-up of all wheels of a name answers the wheels in the directory of its canonical name; the
look-up by version answers the first of them whose version is the same. So neither answers a wheel
of another package, and only the canonical name and the value of the version count. A link to a name
that is too long hides all wheels next to it: the look-ups fail.

Key definitions: `IsFirst`.
Key theorems: `answer_ofCache`, `isFirst_iff`, `answer_of_sameShape`, `lookups_find_wheel_items`.
-/
import PinLedger.Proofs.WheelIndex.Items
import PinLedger.Proofs.WheelIndex.Snapshot

namespace PinLedger.WheelIndex

variable {t t' : FileTree} {name : String}

/-! ### Look-ups in a new index -/

/-- What a look-up in a new index answers, if it is not refused. -/
theorem answer_ofCache {cache : Path} {l : Lookup} (hname : l.name = name)
    (hrefusal : l.refusal = none) :
    (¬ Overlong t (dirOf cache name) → l.answer t (ofCache cache) =
      .ok (l.select (wheelsIn t name (dirOf cache name)))) ∧
    (Overlong t (dirOf cache name) → l.answer t (ofCache cache) =
      .error (.breakdown (.file .nameTooLong))) := by
  rw [Lookup.answer_eq, hrefusal, wheelsOf_ofCache, hname]
  constructor
  · intro hshort
    rw [result_scan_of_not_overlong hshort]
    rfl
  · intro hlong
    rw [result_scan_of_overlong hlong]
    rfl

/-- The first wheel with a version, or none if no wheel has it. -/
def IsFirst (ws : List Wheel) (wanted : Version) : Option Wheel → Prop
  | some w => ∃ before after, ws = before ++ w :: after ∧ w.version.same wanted = true ∧
      ∀ b ∈ before, b.version.same wanted = false
  | none => ∀ w ∈ ws, w.version.same wanted = false

theorem isFirst_iff {ws : List Wheel} {wanted : Version} {found : Option Wheel} :
    IsFirst ws wanted found ↔ found = ws.find? fun w => w.version.same wanted := by
  cases found with
  | none =>
    rw [eq_comm, List.find?_eq_none]
    simp only [IsFirst, Bool.not_eq_true]
  | some w =>
    rw [eq_comm, List.find?_eq_some_iff_append]
    simp only [IsFirst, Bool.not_eq_true']
    constructor
    · rintro ⟨before, after, heq, hw, hbefore⟩
      exact ⟨hw, before, after, heq, hbefore⟩
    · rintro ⟨hw, before, after, heq, hbefore⟩
      exact ⟨before, after, heq, hw, hbefore⟩

/-- Versions that are the same are so to the same versions. -/
theorem same_congr {wanted wanted' : Version} (h : wanted.same wanted' = true) (v : Version) :
    v.same wanted' = v.same wanted := by
  rw [Version.same, Version.same, eq_of_beq h]

theorem select_find {n version : String} {wanted : Version}
    (hversion : Version.parse? version = some wanted) (ws : List Wheel) :
    (Lookup.find n version).select ws = .wheel (ws.find? fun w => w.version.same wanted) := by
  simp only [Lookup.select, hversion, Option.bind_some]

theorem refusal_find {n version : String} {wanted : Version}
    (hversion : Version.parse? version = some wanted)
    (hlong : Version.hasLongNumeral version = false) : (Lookup.find n version).refusal = none := by
  simp [Lookup.refusal, hversion, hlong]

theorem answer_get {cache : Path} {n : String} (hname : Name.pypi n = name)
    (hshort : ¬ Overlong t (dirOf cache name)) : (Lookup.get n).answer t (ofCache cache) =
      .ok (.wheels (wheelsIn t name (dirOf cache name))) := by
  have hname : (Lookup.get n).name = name := hname
  rw [(answer_ofCache hname rfl).1 hshort, Lookup.select]

theorem answer_find {cache : Path} {n version : String} {wanted : Version}
    (hname : Name.pypi n = name) (hversion : Version.parse? version = some wanted)
    (hlong : Version.hasLongNumeral version = false) (hshort : ¬ Overlong t (dirOf cache name)) :
    (Lookup.find n version).answer t (ofCache cache) = .ok (.wheel
      ((wheelsIn t name (dirOf cache name)).find? fun w => w.version.same wanted)) := by
  have hname : (Lookup.find n version).name = name := hname
  rw [(answer_ofCache hname (refusal_find hversion hlong)).1 hshort, select_find hversion]

/-- Names with one canonical form and versions with one value are looked up alike. -/
theorem answer_find_congr {cache : Path} {n n' version version' : String} {wanted wanted' : Version}
    (hname : Name.pypi n' = Name.pypi n) (hversion : Version.parse? version = some wanted)
    (hlong : Version.hasLongNumeral version = false)
    (hversion' : Version.parse? version' = some wanted')
    (hlong' : Version.hasLongNumeral version' = false) (hsame : wanted.same wanted' = true) :
    (Lookup.find n' version').answer t (ofCache cache) =
      (Lookup.find n version).answer t (ofCache cache) := by
  by_cases hover : Overlong t (dirOf cache (Name.pypi n))
  · have hname' : (Lookup.find n' version').name = Name.pypi n := hname
    rw [(answer_ofCache hname' (refusal_find hversion' hlong')).2 hover,
      (answer_ofCache (l := .find n version) rfl (refusal_find hversion hlong)).2 hover]
  · rw [answer_find hname hversion' hlong' hover, answer_find rfl hversion hlong hover]
    simp only [same_congr hsame]

/-- In a tree of the same shape every look-up in a new index answers the same. -/
theorem answer_of_sameShape (h : t.top.SameShape t'.top) (hhere : t'.here = t.here)
    (ht : t.top.Proper) (ht' : t'.top.Proper) (cache : Path) (l : Lookup) :
    l.answer t' (ofCache cache) = l.answer t (ofCache cache) := by
  cases hrefusal : l.refusal with
  | some e => rw [Lookup.answer_eq, Lookup.answer_eq, hrefusal]
  | none =>
    have hover := overlong_of_sameShape h hhere ht ht' (dirOf cache l.name)
    by_cases hlong : Overlong t (dirOf cache l.name)
    · rw [(answer_ofCache rfl hrefusal).2 hlong,
        (answer_ofCache rfl hrefusal).2 (hover.mpr hlong)]
    · rw [(answer_ofCache rfl hrefusal).1 hlong,
        (answer_ofCache rfl hrefusal).1 (mt hover.mp hlong), wheelsIn_of_sameShape h hhere ht ht']

/-- In a new index the look-up of all wheels of a name answers one wheel for each item of the
directory of the name that is one, in the order of the names of the items, and no other; the look-up
by version answers the first of them whose version is the same, or none if there is none. The
directory is the one in the cache with the canonical name. Only the canonical name and the value of
the version count, and of the tree only its shape: in which order directories list their entries
makes no difference. Where the way to the directory or to an item leads to a name that is too long,
both look-ups fail instead; that needs a link to such a name, or such a name to look up. -/
theorem lookups_find_wheel_items {t : FileTree} (ht : t.top.Proper) (cache : Path) (n : String) :
    let dir := dirOf cache (Name.pypi n)
    ('/' ∉ n.toList → n ≠ "" → dir = cache.child (Name.pypi n)) ∧
    (t.Fits → dir.Fits → ¬ Overlong t dir) ∧
    (∀ l : Lookup, l.name = Name.pypi n → l.refusal = none → Overlong t dir →
      l.answer t (ofCache cache) = .error (.breakdown (.file .nameTooLong))) ∧
    (¬ Overlong t dir → ∃ ws : List Wheel,
      (∀ w, w ∈ ws ↔ ∃ item ∈ t.namesAt dir, IsWheelOf t (Name.pypi n) dir item w) ∧
      ws.Pairwise (fun a b => a.path.name < b.path.name) ∧
      ∀ n', Name.pypi n' = Name.pypi n →
        (Lookup.get n').answer t (ofCache cache) = .ok (.wheels ws) ∧
        ∀ version wanted, Version.parse? version = some wanted →
          Version.hasLongNumeral version = false →
          ∃ found, (Lookup.find n' version).answer t (ofCache cache) = .ok (.wheel found) ∧
            ∀ f, IsFirst ws wanted f ↔ f = found) ∧
    (∀ n' version version' wanted wanted', Name.pypi n' = Name.pypi n →
      Version.parse? version = some wanted → Version.hasLongNumeral version = false →
      Version.parse? version' = some wanted' → Version.hasLongNumeral version' = false →
      wanted.same wanted' = true →
      (Lookup.find n' version').answer t (ofCache cache) =
        (Lookup.find n version).answer t (ofCache cache)) ∧
    ∀ t' : FileTree, t'.here = t.here → t'.top.Proper → t.top.SameShape t'.top →
      ∀ l : Lookup, l.answer t' (ofCache cache) = l.answer t (ofCache cache) := by
  intro dir
  refine ⟨?directory, ?fits, ?overlong, ?wheels, ?value, ?shape⟩
  case directory => exact dirOf_pypi cache
  case fits => exact fun hfit hdir => not_overlong_of_fits hfit hdir
  case overlong =>
    intro l hname hrefusal hlong
    exact (answer_ofCache hname hrefusal).2 hlong
  case wheels =>
    intro hshort
    refine ⟨wheelsIn t (Name.pypi n) dir, fun w => mem_wheelsIn_iff,
      pairwise_wheelsIn ht (Name.pypi n) dir, fun n' hname => ⟨answer_get hname hshort, ?_⟩⟩
    intro version wanted hversion hlong
    exact ⟨_, answer_find hname hversion hlong hshort, fun f => isFirst_iff⟩
  case value =>
    intro n' version version' wanted wanted' hname hversion hlong hversion' hlong' hsame
    exact answer_find_congr hname hversion hlong hversion' hlong' hsame
  case shape =>
    intro t' hhere ht' hshape l
    exact answer_of_sameShape hshape hhere ht ht' cache l

/-! ### A cache with items of several kinds -/

/-- An unpacked wheel behind a link, a wheel file and a note. -/
def stock : List (String × Node) := [
  ("A.B-1-c-d-e", .link "../unpacked"),
  ("a_b-2.0-c-d-e.whl", .file (.zeros 1)),
  ("README", .file (.zeros 1))]

/-- A cache with that directory for `a-b`. -/
def stockedTree : FileTree := ⟨.dir [("a-b", .dir stock), ("unpacked", .dir [])], []⟩

/-- The same cache, listed in another order. -/
def relistedTree : FileTree := ⟨.dir [("a-b", .dir stock.reverse), ("unpacked", .dir [])], []⟩

/-- The directory of `a-b`. -/
def stockDir : Path := ⟨.top, ["a-b"]⟩

/-- The unpacked wheel. -/
def unpackedWheel : Wheel where
  name := "a-b"
  version := ⟨0, [1], none, none, none, []⟩
  fileName := "A.B-1-c-d-e.whl"
  path := stockDir.child "A.B-1-c-d-e"

/-- The wheel file. -/
def packedWheel : Wheel where
  name := "a-b"
  version := ⟨0, [2, 0], none, none, none, []⟩
  fileName := "a_b-2.0-c-d-e.whl"
  path := stockDir.child "a_b-2.0-c-d-e.whl"

theorem find_unpacked :
    stockedTree.find (stockDir.child "A.B-1-c-d-e") = .ok (.dir []) := by
  have htop : stockedTree.top.at? [] = some stockedTree.top := rfl
  have hstock : stockedTree.top.at? ["a-b"] = some (.dir stock) := rfl
  have htarget : FileTree.targetNames "../unpacked" ++ [] = ["..", "unpacked"] := by decide
  have hdown : stockedTree.walk true (39 + 1) [] ["a-b", "A.B-1-c-d-e"] =
      stockedTree.walk true (39 + 1) ["a-b"] ["A.B-1-c-d-e"] :=
    FileTree.walk_of_lookup htop (by decide) (by decide) rfl rfl
  have hlink : stockedTree.walk true (39 + 1) ["a-b"] ["A.B-1-c-d-e"] =
      stockedTree.walk true 39 (if "../unpacked".startsWith "/" then [] else ["a-b"])
        (FileTree.targetNames "../unpacked" ++ []) :=
    FileTree.walk_of_link hstock (by decide) (by decide) rfl (by decide)
  have hback : stockedTree.walk true 39 ["a-b"] ["..", "unpacked"] =
      stockedTree.walk true 39 [] ["unpacked"] := FileTree.walk_of_up hstock
  have hend : stockedTree.walk true 39 [] ["unpacked"] = .ok (["unpacked"], .dir []) :=
    (FileTree.walk_of_lookup htop (by decide) (by decide) rfl rfl).trans (FileTree.walk_nil rfl)
  have hrelative : "../unpacked".startsWith "/" = false := by decide +kernel
  rw [hrelative, htarget, if_neg Bool.false_ne_true] at hlink
  rw [FileTree.find, FileTree.locate]
  change ((stockedTree.walk true (39 + 1) [] ["a-b", "A.B-1-c-d-e"]).map _) = _
  rw [hdown, hlink, hback, hend]
  rfl

theorem namesAt_stockedTree : stockedTree.namesAt stockDir = stock.map Prod.fst :=
  FileTree.namesAt_of_find (n := .dir stock)
    (FileTree.find_top_lookup rfl (by decide) (by decide) rfl rfl)

/-- The two wheels are all that the directory holds. -/
theorem wheelsIn_stockedTree :
    wheelsIn stockedTree "a-b" stockDir = [unpackedWheel, packedWheel] := by
  have hsorted : ((stockedTree.namesAt stockDir).mergeSort fun a b => decide (a ≤ b)) =
      ["A.B-1-c-d-e", "README", "a_b-2.0-c-d-e.whl"] := by
    rw [namesAt_stockedTree]
    have hperm : (stock.map Prod.fst).Perm ["A.B-1-c-d-e", "README", "a_b-2.0-c-d-e.whl"] := by
      decide
    rw [Sorting.mergeSort_eq_of_perm Sorting.comparison_names hperm fun a _ b _ hab hba =>
      String.le_antisymm (of_decide_eq_true hab) (of_decide_eq_true hba)]
    exact List.mergeSort_of_pairwise (by decide)
  have hfirst : wheelOf? stockedTree "a-b" (stockDir.child "A.B-1-c-d-e") =
      some unpackedWheel :=
    wheelOf?_eq_some_iff.mpr ⟨rfl, rfl,
      .inr ⟨by decide, ⟨[], find_unpacked⟩, by decide +kernel⟩, by decide +kernel⟩
  have hsecond : wheelOf? stockedTree "a-b" (stockDir.child "a_b-2.0-c-d-e.whl") =
      some packedWheel :=
    wheelOf?_eq_some_iff.mpr ⟨rfl, rfl, .inl ⟨by decide, rfl⟩, by decide +kernel⟩
  have hnote : wheelOf? stockedTree "a-b" (stockDir.child "README") = none :=
    wheelOf?_eq_none (by decide)
  rw [wheelsIn, hsorted]
  simp only [List.filterMap_cons, List.filterMap_nil, hfirst, hsecond, hnote]

theorem proper_stockedTree : stockedTree.top.Proper := by
  simp only [stockedTree, stock, Node.Proper, Node.EntriesProper, and_true]
  decide

theorem proper_relistedTree : relistedTree.top.Proper := by
  simp only [relistedTree, stock, List.reverse_cons, List.reverse_nil, List.nil_append,
    List.cons_append, Node.Proper, Node.EntriesProper, and_true]
  decide

theorem sameShape_relistedTree : stockedTree.top.SameShape relistedTree.top := by
  have hstock : (Node.dir stock).Proper :=
    proper_stockedTree.at? (show stockedTree.top.at? ["a-b"] = _ from rfl)
  have hreverse : (Node.dir stock.reverse).Proper :=
    proper_relistedTree.at? (show relistedTree.top.at? ["a-b"] = _ from rfl)
  have hpart := Node.sameShape_of_perm hstock hreverse (List.reverse_perm stock).symm
  exact Node.sameShape_of_entry hpart [] [("unpacked", .dir [])] "a-b"

theorem fits_stockedTree : stockedTree.Fits := by
  have htarget : ∀ name ∈ FileTree.targetNames "../unpacked", PinLedger.Fits name := by
    decide
  simp only [FileTree.Fits, stockedTree, stock, Node.Fits, Node.EntriesFit, and_true, true_and]
  exact ⟨by decide, ⟨by decide, htarget, by decide, by decide⟩, by decide⟩

/-- Under two spellings of the name, and of a version, the look-ups find the unpacked wheel and the
wheel file, in whichever order the cache is listed. -/
theorem lookups_in_stockedTree :
    stockedTree.top.Proper ∧ ¬ Overlong stockedTree stockDir ∧
      (Lookup.get "A_B").answer stockedTree (ofCache (Path.ofText "/")) =
        .ok (.wheels [unpackedWheel, packedWheel]) ∧
      (Lookup.find "A--b" "2").answer relistedTree (ofCache (Path.ofText "/")) =
        .ok (.wheel (some packedWheel)) := by
  have hdir : dirOf (Path.ofText "/") (Name.pypi "A_B") = stockDir := by decide
  have hcanonical : Name.pypi "A_B" = "a-b" := by decide
  have hspelled : Name.pypi "A--b" = "a-b" := by decide
  have hname : Name.pypi "A--b" = Name.pypi "A_B" := hspelled.trans hcanonical.symm
  have hversion : Version.parse? "2" = some ⟨0, [2], none, none, none, []⟩ := by decide
  obtain ⟨-, hshort, -, hwheels, -, hshape⟩ :=
    lookups_find_wheel_items proper_stockedTree (Path.ofText "/") "A_B"
  rw [hdir] at hshort hwheels
  have hshort := hshort fits_stockedTree (List.forall_mem_singleton.mpr (by decide))
  obtain ⟨ws, -, -, hanswers⟩ := hwheels hshort
  obtain ⟨hget, -⟩ := hanswers "A_B" rfl
  have hlisted : (Lookup.get "A_B").answer stockedTree (ofCache (Path.ofText "/")) =
      .ok (.wheels [unpackedWheel, packedWheel]) := by
    rw [answer_get rfl (hdir ▸ hshort), hdir, hcanonical, wheelsIn_stockedTree]
  obtain rfl : ws = [unpackedWheel, packedWheel] :=
    Found.wheels.inj (Except.ok.inj (hget.symm.trans hlisted))
  obtain ⟨found, hfind, hfirst⟩ := (hanswers "A--b" hname).2 "2" _ hversion (by decide)
  obtain rfl : some packedWheel = found :=
    (hfirst (some packedWheel)).mp ⟨[unpackedWheel], [], rfl, by decide, by decide⟩
  refine ⟨proper_stockedTree, hshort, hlisted, ?_⟩
  rw [hshape relistedTree rfl proper_relistedTree sameShape_relistedTree, hfind]

/-! ### A link that hides a wheel -/

/-- A wheel file, next to a link into a directory, to a name that is too long. -/
def hiddenPart : List (String × Node) := [("x-1-c-d-e.whl", .file (.zeros 0)),
  ("d", .dir []), ("zz", .link ("d/" ++ longName))]

/-- A cache with that directory for `x`. -/
def hiddenTree : FileTree := ⟨.dir [("x", .dir hiddenPart)], []⟩

theorem find_hiddenTree : hiddenTree.find ⟨.top, ["x", "zz"]⟩ = .error .nameTooLong := by
  have htop : hiddenTree.top.at? [] = some hiddenTree.top := rfl
  have hplain : IsPlain longName :=
    ⟨not_or.mpr ⟨longName_ne (by decide), longName_ne (by decide)⟩, longName_ne (by decide)⟩
  have hrelative : ("d/" ++ longName).startsWith "/" = false := by decide +kernel
  have hdown : hiddenTree.walk true (39 + 1) [] ["x", "zz"] =
      hiddenTree.walk true (39 + 1) ["x"] ["zz"] :=
    FileTree.walk_of_lookup htop (by decide) (by decide) rfl rfl
  have hlink : hiddenTree.walk true (39 + 1) ["x"] ["zz"] =
      hiddenTree.walk true 39 (if ("d/" ++ longName).startsWith "/" then [] else ["x"])
        (FileTree.targetNames ("d/" ++ longName) ++ []) :=
    FileTree.walk_of_link rfl (by decide) (by decide) rfl (by decide)
  have hend : hiddenTree.walk true 39 ["x"] ["d", longName] = .error .nameTooLong :=
    (FileTree.walk_of_lookup rfl (by decide) (by decide) rfl rfl).trans
      (FileTree.walk_of_long rfl hplain longName_is_long)
  rw [hrelative, if_neg Bool.false_ne_true, targetNames_longName, List.append_nil] at hlink
  rw [FileTree.find, FileTree.locate]
  change (hiddenTree.walk true (39 + 1) [] ["x", "zz"]).map _ = _
  rw [hdown, hlink, hend]
  rfl

/-- The item is a wheel of `x`, but for the link that stands next to it both look-ups fail. -/
theorem link_hides_wheel :
    let w : Wheel := ⟨"x", ⟨0, [1], none, none, none, []⟩, "x-1-c-d-e.whl",
      ⟨.top, ["x", "x-1-c-d-e.whl"]⟩⟩
    hiddenTree.top.Proper ∧
      (∃ item ∈ hiddenTree.namesAt ⟨.top, ["x"]⟩, IsWheelOf hiddenTree "x" ⟨.top, ["x"]⟩ item w) ∧
      (Lookup.get "x").answer hiddenTree (ofCache (Path.ofText "/")) =
        .error (.breakdown (.file .nameTooLong)) ∧
      (Lookup.find "x" "1").answer hiddenTree (ofCache (Path.ofText "/")) =
        .error (.breakdown (.file .nameTooLong)) := by
  intro w
  have hdir : dirOf (Path.ofText "/") (Name.pypi "x") = ⟨.top, ["x"]⟩ := by decide
  have hversion : Version.parse? "1" = some ⟨0, [1], none, none, none, []⟩ := by decide
  have hnames : hiddenTree.namesAt ⟨.top, ["x"]⟩ = ["x-1-c-d-e.whl", "d", "zz"] :=
    FileTree.namesAt_of_find (n := .dir hiddenPart)
      (FileTree.find_top_lookup rfl (by decide) (by decide) rfl rfl)
  have hoverlong : Overlong hiddenTree (dirOf (Path.ofText "/") (Name.pypi "x")) := by
    rw [hdir]
    exact .inr ⟨"zz", by rw [hnames]; decide, by decide, find_hiddenTree⟩
  refine ⟨?proper, ⟨"x-1-c-d-e.whl", ?listed, ?wheel⟩, ?get, ?find⟩
  case proper =>
    simp only [hiddenTree, hiddenPart, Node.Proper, Node.EntriesProper, and_true]
    decide
  case listed =>
    rw [hnames]
    decide
  case wheel => exact ⟨rfl, rfl, .inl ⟨by decide, rfl⟩, by decide +kernel⟩
  case get => exact (answer_ofCache (l := .get "x") rfl rfl).2 hoverlong
  case find =>
    exact (answer_ofCache (l := .find "x" "1") rfl
      (refusal_find hversion (by decide))).2 hoverlong

end PinLedger.WheelIndex

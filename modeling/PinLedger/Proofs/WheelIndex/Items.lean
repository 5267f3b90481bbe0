/-
# The wheels in the directory of a name

An item of the directory of a canonical name is a cached wheel if it is named like a wheel of that
name, or if it is a directory, also one behind a link, that is named like one without the ending.
Reading the directory finds one wheel for each such item, in the order of the names of the items,
and nothing else. How the directory lists its items does not matter. Reading fails where the way to
an item leads to a name that is too long, and only there.

Key definitions: `IsWheelOf`, `Overlong`, `wheelsIn`.
Key theorems: `mem_wheelsIn_iff`, `pairwise_wheelsIn`, `result_scan_of_not_overlong`,
`result_scan_of_overlong`, `wheelsIn_of_sameShape`.
-/
import PinLedger.Proofs.Files.Shape
import PinLedger.Proofs.Sorting
import PinLedger.Proofs.Spelling.Canonical
import PinLedger.Proofs.WheelIndex.Reading

namespace PinLedger.WheelIndex

open Outcome

variable {t t' : FileTree} {name item : String} {dir path : Path}

/-! ### The directory of a name -/

/-- The directory of a name lies in the cache, under the canonical name. -/
theorem dirOf_pypi (cache : Path) {n : String} (hslash : '/' ∉ n.toList) (hn : n ≠ "") :
    dirOf cache (Name.pypi n) = cache.child (Name.pypi n) := by
  obtain ⟨hplain, hne, hdot⟩ := Name.plain_pypi hslash hn
  have hnames : Path.namesOf (Name.pypi n) = [Name.pypi n] := by
    rw [Path.namesOf, Text.split, Text.splitAt_of_not_mem hplain, List.map_singleton,
      String.ofList_toList]
    simp [hne, hdot]
  have hanchor : Path.anchorOf (Name.pypi n).toList = .here := by
    unfold Path.anchorOf
    split
    · next h => exact absurd (h ▸ List.mem_cons_self ..) hplain
    · next h => exact absurd (h ▸ List.mem_cons_self ..) hplain
    · next h => exact absurd (h ▸ List.mem_cons_self ..) hplain
    · rfl
  simp [dirOf, Path.join, Path.isAbsolute, Path.ofText, Path.child, hnames, hanchor]

/-! ### Items that are wheels -/

/-- An item of a directory is a cached wheel of a name: it is named like the wheel, or it is a
directory, also one behind a link, that is named like the wheel without its ending. -/
structure IsWheelOf (t : FileTree) (name : String) (dir : Path) (item : String) (w : Wheel) :
    Prop where
  name_eq : w.name = name
  path_eq : w.path = dir.child item
  fileName : (WheelName.hasEnding item = true ∧ w.fileName = item) ∨
    (WheelName.hasEnding item = false ∧ (∃ entries, t.find (dir.child item) = .ok (.dir entries)) ∧
      w.fileName = item ++ WheelName.ending)
  read : WheelName.parse? w.fileName = some ⟨name, w.version⟩

/-- The wheel that an entry is. -/
def wheelOf? (t : FileTree) (name : String) (path : Path) : Option Wheel :=
  match itemOf t name path with
  | .ok found => found.wheel?
  | .error _ => none

theorem wheel?_ofFileName {fileName : String} {w : Wheel} :
    (Item.ofFileName name path fileName).wheel? = some w ↔
      w.name = name ∧ w.path = path ∧ w.fileName = fileName ∧
        WheelName.parse? fileName = some ⟨name, w.version⟩ := by
  unfold Item.ofFileName
  cases hparse : WheelName.parse? fileName with
  | none => simp [Item.wheel?]
  | some read =>
    by_cases hname : read.name = name
    · simp only [hname, if_true, Item.wheel?, Option.some.injEq]
      constructor
      · rintro rfl
        exact ⟨rfl, rfl, rfl, by rw [← hname]⟩
      · rintro ⟨rfl, rfl, rfl, hread⟩
        rw [hread]
    · simp only [hname, if_false, Item.wheel?, reduceCtorEq, Option.some.injEq, false_iff]
      rintro ⟨-, -, -, rfl⟩
      exact hname rfl

theorem isDir?_eq_true_iff :
    t.isDir? path = .ok true ↔ ∃ entries, t.find path = .ok (.dir entries) := by
  unfold FileTree.isDir? FileTree.ask
  cases t.find path with
  | error reason => cases reason <;> simp
  | ok n => cases n <;> simp [Node.isDir]

theorem wheelOf?_eq_some_iff {w : Wheel} :
    wheelOf? t name (dir.child item) = some w ↔ IsWheelOf t name dir item w := by
  have hspec : IsWheelOf t name dir item w ↔
      w.name = name ∧ w.path = dir.child item ∧
      ((WheelName.hasEnding item = true ∧ w.fileName = item) ∨
        (WheelName.hasEnding item = false ∧ t.isDir? (dir.child item) = .ok true ∧
          w.fileName = item ++ WheelName.ending)) ∧
      WheelName.parse? w.fileName = some ⟨name, w.version⟩ := by
    rw [isDir?_eq_true_iff]
    exact ⟨fun h => ⟨h.1, h.2, h.3, h.4⟩, fun h => ⟨h.1, h.2.1, h.2.2.1, h.2.2.2⟩⟩
  rw [hspec]
  unfold wheelOf? itemOf
  rw [Path.name_child]
  cases hending : WheelName.hasEnding item with
  | true =>
    simp only [if_true, pure, Except.pure, wheel?_ofFileName]
    constructor
    · rintro ⟨hname, hpath, hfile, hread⟩
      exact ⟨hname, hpath, .inl ⟨trivial, hfile⟩, hfile ▸ hread⟩
    · rintro ⟨hname, hpath, ⟨-, hfile⟩ | ⟨hno, -⟩, hread⟩
      · exact ⟨hname, hpath, hfile, hfile ▸ hread⟩
      · cases hno
  | false =>
    cases hdir : t.isDir? (dir.child item) with
    | error fault => simp
    | ok isDir =>
      cases isDir with
      | false => simp [pure, Except.pure, Item.wheel?]
      | true =>
        simp only [Bool.false_eq_true, if_false, ok_bind, if_true, pure, Except.pure,
          wheel?_ofFileName]
        constructor
        · rintro ⟨hname, hpath, hfile, hread⟩
          exact ⟨hname, hpath, .inr ⟨trivial, trivial, hfile⟩, hfile ▸ hread⟩
        · rintro ⟨hname, hpath, ⟨hno, -⟩ | ⟨-, -, hfile⟩, hread⟩
          · exact absurd hno (by decide)
          · exact ⟨hname, hpath, hfile, hfile ▸ hread⟩

/-- An item is no wheel of a name if neither its name nor that with the ending reads as one. -/
theorem wheelOf?_eq_none (h : ∀ fileName ∈ [item, item ++ WheelName.ending],
    (WheelName.parse? fileName).map WheelName.name ≠ some name) :
    wheelOf? t name (dir.child item) = none := by
  refine Option.eq_none_iff_forall_ne_some.mpr fun w hw => ?_
  have hitem := wheelOf?_eq_some_iff.mp hw
  have hmem : w.fileName ∈ [item, item ++ WheelName.ending] := by
    rcases hitem.fileName with ⟨-, hfile⟩ | ⟨-, -, hfile⟩ <;> simp [hfile]
  refine h w.fileName hmem ?_
  rw [hitem.read]
  rfl

/-- The wheels among the items of a directory, in the order of the names of the items. -/
def wheelsIn (t : FileTree) (name : String) (dir : Path) : List Wheel :=
  ((t.namesAt dir).mergeSort fun a b => decide (a ≤ b)).filterMap fun item =>
    wheelOf? t name (dir.child item)

theorem mem_wheelsIn_iff {w : Wheel} :
    w ∈ wheelsIn t name dir ↔ ∃ item ∈ t.namesAt dir, IsWheelOf t name dir item w := by
  simp only [wheelsIn, List.mem_filterMap, List.mem_mergeSort, wheelOf?_eq_some_iff]

/-- No two wheels come from one item, and they stand in the order of the items. -/
theorem pairwise_wheelsIn (ht : t.top.Proper) (name : String) (dir : Path) :
    (wheelsIn t name dir).Pairwise fun a b => a.path.name < b.path.name := by
  unfold wheelsIn
  rw [List.pairwise_filterMap]
  refine (Sorting.pairwise_lt_mergeSort (FileTree.nodup_namesAt ht dir)).imp ?_
  intro first second hlt w hw w' hw'
  have hfirst := (wheelOf?_eq_some_iff.mp hw).path_eq
  have hsecond := (wheelOf?_eq_some_iff.mp hw').path_eq
  rwa [hfirst, hsecond, Path.name_child, Path.name_child]

/-! ### What reading the directory ends in -/

/-- The way to a directory, or to an item of it that could be an unpacked wheel, leads to a name
that is too long. -/
def Overlong (t : FileTree) (dir : Path) : Prop :=
  t.find dir = .error .nameTooLong ∨
    ∃ item ∈ t.namesAt dir, WheelName.hasEnding item = false ∧
      t.find (dir.child item) = .error .nameTooLong

theorem itemOf_eq_error_iff : (∃ fault, itemOf t name path = .error fault) ↔
    WheelName.hasEnding path.name = false ∧ t.find path = .error .nameTooLong := by
  unfold itemOf
  cases WheelName.hasEnding path.name with
  | true => simp [pure, Except.pure]
  | false =>
    simp only [Bool.false_eq_true, if_false, true_and, bind_eq_error_iff]
    unfold FileTree.isDir? FileTree.ask
    cases t.find path with
    | error reason => cases reason <;> simp [pure, Except.pure]
    | ok n => cases n <;> simp [pure, Except.pure, Node.isDir]

/-- Reading all items fails if there is one that cannot be looked at. -/
theorem exists_wheelsAmong_eq_ok_iff {items : List String} :
    (∃ ws, (wheelsAmong t name (items.map dir.child)).result = .ok ws) ↔
      ∀ item ∈ items, ¬ (WheelName.hasEnding item = false ∧
        t.find (dir.child item) = .error .nameTooLong) := by
  have hitem : ∀ item, (∃ found, itemOf t name (dir.child item) = .ok found) ↔
      ¬ (WheelName.hasEnding item = false ∧ t.find (dir.child item) = .error .nameTooLong) := by
    intro item
    have hfault : (∃ fault, itemOf t name (dir.child item) = .error fault) ↔
        WheelName.hasEnding (dir.child item).name = false ∧
          t.find (dir.child item) = .error .nameTooLong := itemOf_eq_error_iff
    rw [Path.name_child] at hfault
    rw [← hfault]
    cases itemOf t name (dir.child item) <;> simp
  simp only [← hitem, result_wheelsAmong, mapError_eq_ok_iff, map_eq_ok_iff]
  rw [← List.forall_mem_map (P := fun p => ∃ found, itemOf t name p = .ok found),
    ← exists_mapM_eq_ok_iff]
  exact ⟨fun ⟨_, found, hfound, _⟩ => ⟨found, hfound⟩, fun ⟨found, hfound⟩ => ⟨_, found, hfound, rfl⟩⟩

theorem wheelsAmong_eq_ok {paths : List Path} {ws : List Wheel}
    (h : (wheelsAmong t name paths).result = .ok ws) : ws = paths.filterMap (wheelOf? t name) := by
  rw [result_wheelsAmong, mapError_eq_ok_iff, map_eq_ok_iff] at h
  obtain ⟨items, hitems, rfl⟩ := h
  have hall := mapM_eq_ok_iff.mp hitems
  clear hitems
  induction hall with
  | nil => rfl
  | @cons path found paths items hfound _ ih =>
    have hwheel : wheelOf? t name path = found.wheel? := by
      unfold wheelOf?
      rw [hfound]
    rw [List.flatMap_cons, List.filterMap_cons, ih, hwheel]
    cases found.wheel? <;> rfl

/-- What the directory of a name holds: nothing if it is no directory. -/
theorem result_scan_eq (t : FileTree) (cache : Path) (name : String)
    (h : t.find (dirOf cache name) ≠ .error .nameTooLong) :
    (scan t cache name).result =
      (wheelsAmong t name (((t.namesAt (dirOf cache name)).mergeSort fun a b =>
        decide (a ≤ b)).map (dirOf cache name).child)).result := by
  rw [result_scan]
  cases hfind : t.find (dirOf cache name) with
  | error reason =>
    have hnone : t.namesAt (dirOf cache name) = [] := by
      rw [FileTree.namesAt, hfind]
    rw [hnone, List.mergeSort_nil]
    cases reason with
    | nameTooLong => exact absurd hfind h
    | _ => rfl
  | ok n =>
    rw [FileTree.namesAt_of_find hfind]
    cases n with
    | dir entries => rfl
    | file content | link target =>
      simp only [Node.names, List.mergeSort_nil]
      rfl

theorem result_scan_of_not_overlong {cache : Path} (h : ¬ Overlong t (dirOf cache name)) :
    (scan t cache name).result = .ok (wheelsIn t name (dirOf cache name)) := by
  obtain ⟨hfind, hitems⟩ := not_or.mp h
  have hread := result_scan_eq t cache name hfind
  have hlooked : ∀ item ∈ (t.namesAt (dirOf cache name)).mergeSort fun a b => decide (a ≤ b),
      ¬ (WheelName.hasEnding item = false ∧
        t.find ((dirOf cache name).child item) = .error .nameTooLong) :=
    fun item hitem hlong => hitems ⟨item, List.mem_mergeSort.mp hitem, hlong⟩
  obtain ⟨ws, hws⟩ : ∃ ws, (wheelsAmong t name _).result = .ok ws :=
    exists_wheelsAmong_eq_ok_iff.mpr hlooked
  rw [hread, hws, wheelsAmong_eq_ok hws, List.filterMap_map]
  rfl

theorem result_scan_of_overlong {cache : Path} (h : Overlong t (dirOf cache name)) :
    (scan t cache name).result = .error (.breakdown (.file .nameTooLong)) := by
  cases hread : (scan t cache name).result with
  | error e => rw [scan_eq_error hread]
  | ok ws =>
    exfalso
    by_cases hfind : t.find (dirOf cache name) = .error .nameTooLong
    · rw [result_scan, hfind] at hread
      cases hread
    · rw [result_scan_eq t cache name hfind] at hread
      obtain ⟨item, hitem, hlong⟩ := h.resolve_left hfind
      exact exists_wheelsAmong_eq_ok_iff.mp ⟨ws, hread⟩ item (List.mem_mergeSort.mpr hitem) hlong

/-- Where the names of the tree and its links fit, nothing is too long. -/
theorem not_overlong_of_fits (ht : t.Fits) {cache : Path} (hdir : (dirOf cache name).Fits) :
    ¬ Overlong t (dirOf cache name) := by
  intro hlong
  obtain ⟨ws, hws⟩ := exists_scan_eq_ok ht hdir
  rw [result_scan_of_overlong hlong] at hws
  cases hws

/-! ### The order in which directories list their items -/

section Shape

variable (h : t.top.SameShape t'.top) (hhere : t'.here = t.here)

include h hhere

theorem overlong_of_sameShape (ht : t.top.Proper) (ht' : t'.top.Proper) (dir : Path) :
    Overlong t' dir ↔ Overlong t dir := by
  have herror : ∀ p, t'.find p = .error .nameTooLong ↔ t.find p = .error .nameTooLong := by
    intro p
    have hshape := FileTree.find_of_sameShape h hhere p
    cases hfind : t.find p <;> cases hfind' : t'.find p <;>
      simp_all [Except.map]
  unfold Overlong
  simp only [herror, (FileTree.namesAt_of_sameShape h hhere ht ht' dir).mem_iff]

theorem wheelsIn_of_sameShape (ht : t.top.Proper) (ht' : t'.top.Proper) (name : String)
    (dir : Path) : wheelsIn t' name dir = wheelsIn t name dir := by
  have hitem : ∀ path, wheelOf? t' name path = wheelOf? t name path := fun path => by
    unfold wheelOf? itemOf
    rw [FileTree.isDir?_of_sameShape h hhere]
  unfold wheelsIn
  rw [Sorting.mergeSort_eq_of_perm Sorting.comparison_names
    (FileTree.namesAt_of_sameShape h hhere ht ht' dir)
    fun a _ b _ hab hba => String.le_antisymm (of_decide_eq_true hab) (of_decide_eq_true hba)]
  exact List.filterMap_congr fun item _ => hitem (dir.child item)

end Shape

end PinLedger.WheelIndex

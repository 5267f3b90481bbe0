/-
# Wheel indexes keep snapshots

An index lives on while the tree changes. What it says of a name is what a new index would have said
when the directory of the name was read to its end for the first time. A look-up that fails does not
count: it leaves the index as it was, and the next one reads the directory as it is then.

Key definitions: `Asks`, `Reads`, `treeAt`.
Key theorems: `wheelsOf_run`, `treeAt_reads_eq_treeAt_asks`, `lookups_answer_from_snapshot`.
-/
import Mathlib.Data.List.Find
import Mathlib.Data.String.Basic
import PinLedger.Proofs.Files.Walk
import PinLedger.Proofs.History
import PinLedger.Proofs.WheelIndex.Lookup
import PinLedger.Proofs.WheelIndex.Reading

namespace PinLedger.WheelIndex

open Outcome History

/-! ### The tree that answers -/

/-- Is a name asked for, by a look-up that is not refused? -/
def Asks (name : String) (p : FileTree × Lookup) : Bool :=
  decide (p.2.refusal = none ∧ name = p.2.name)

/-- What a look-up reads of a name, if it asks for it and comes to the end of its directory. -/
def readAt (cache : Path) (name : String) (p : FileTree × Lookup) : Option (List Wheel) :=
  if Asks name p then (scan p.1 cache name).result.toOption else none

/-- Does a look-up read the directory of a name to its end? -/
def Reads (cache : Path) (name : String) (p : FileTree × Lookup) : Bool :=
  (readAt cache name p).isSome

/-- The tree at the first moment of a run that is so, else the present tree. -/
def treeAt (isSo : FileTree × Lookup → Bool) (t₀ : FileTree)
    (steps : List (Step FileTree Lookup)) (now : FileTree) : FileTree :=
  (((moments t₀ steps).find? isSo).map (·.1)).getD now

/-- What is read first is what is read at the first moment at which something is read. -/
theorem findSome?_readAt (cache : Path) (name : String) (ps : List (FileTree × Lookup)) :
    ps.findSome? (readAt cache name) =
      (ps.find? (Reads cache name)).bind fun p => (scan p.1 cache name).result.toOption := by
  induction ps with
  | nil => rfl
  | cons p ps ih =>
    rw [List.findSome?_cons, List.find?_cons, ih, Reads]
    by_cases hasks : Asks name p = true
    · rw [readAt, if_pos hasks]
      cases hscan : (scan p.1 cache name).result with
      | error e => rfl
      | ok ws => simp [Except.toOption, hscan]
    · rw [readAt, if_neg hasks]
      rfl

/-- After a run an index has the wheels of a name that a new index finds in the tree of the first
moment at which the directory was read, or in the present tree if it was not. -/
theorem wheelsOf_run (cache : Path) (t₀ : FileTree) (steps : List (Step FileTree Lookup))
    (t : FileTree) (name : String) :
    wheelsOf t (run Lookup.leaves (t₀, ofCache cache) steps).2 name =
      wheelsOf (treeAt (Reads cache name) t₀ steps t) (ofCache cache) name := by
  -- The index stays at its cache, and a name that it knows it knows from the first reading.
  obtain ⟨hcache, hknown⟩ := view_run (fun ix : WheelIndex => ix.cache = cache)
    (fun ix => ix.known.lookup name) (readAt cache name)
    (fun t l ix h => (Lookup.cache_leaves t ix l).trans h)
    (fun t l ix h => by
      rw [Lookup.lookup_known_leaves, h]
      simp [readAt, Asks])
    t₀ (show (ofCache cache).cache = cache from rfl) steps
  have hknown : (run Lookup.leaves (t₀, ofCache cache) steps).2.known.lookup name =
      (moments t₀ steps).findSome? (readAt cache name) := hknown
  unfold wheelsOf treeAt
  rw [hknown, hcache, findSome?_readAt]
  cases hread : (moments t₀ steps).find? (Reads cache name) with
  | none => rfl
  | some p =>
    have hreads : Reads cache name p = true := List.find?_some hread
    unfold Reads readAt at hreads
    split at hreads
    · cases hscan : (scan p.1 cache name).result with
      | error e => simp [hscan, Except.toOption] at hreads
      | ok ws => simp [hscan, Except.toOption, ofCache]
    · simp at hreads

/-! ### Where names fit -/

/-- Where names fit, the first look-up that is not refused reads the directory. -/
theorem treeAt_reads_eq_treeAt_asks {cache : Path} {t₀ : FileTree}
    {steps : List (Step FileTree Lookup)} (hfit : ∀ p ∈ moments t₀ steps, p.1.Fits) {name : String}
    (hdir : (dirOf cache name).Fits) (now : FileTree) :
    treeAt (Reads cache name) t₀ steps now = treeAt (Asks name) t₀ steps now := by
  have hsame : ∀ p ∈ moments t₀ steps, Reads cache name p = Asks name p := fun p hp => by
    obtain ⟨wheels, hscan⟩ := exists_scan_eq_ok (hfit p hp) hdir
    unfold Reads readAt
    rw [hscan]
    cases Asks name p <;> rfl
  unfold treeAt
  rw [List.find?_congr hsame]

/-! ### Look-ups that fail, and look-ups of other names -/

/-- A look-up fails if it is refused, or if a name is too long. -/
theorem answer_eq_error {t : FileTree} {ix : WheelIndex} {l : Lookup} {e : Failure}
    (h : l.answer t ix = .error e) :
    l.refusal = some e ∨ l.refusal = none ∧ e = .breakdown (.file .nameTooLong) := by
  rw [Lookup.answer_eq] at h
  cases hrefusal : l.refusal with
  | some e' =>
    rw [hrefusal] at h
    exact .inl (congrArg some (Except.error.inj h))
  | none =>
    rw [hrefusal] at h
    have hwheels : wheelsOf t ix l.name = .error e := map_eq_error_iff.mp h
    unfold wheelsOf at hwheels
    split at hwheels
    · simp at hwheels
    · exact .inr ⟨rfl, scan_eq_error hwheels⟩

/-- The tree that answers does not depend on look-ups of other names. -/
theorem treeAt_filter (cache : Path) (name : String) (t₀ : FileTree)
    (steps : List (Step FileTree Lookup)) (now : FileTree) :
    treeAt (Reads cache name) t₀ (steps.filter (Step.keeps fun l => l.name = name)) now =
      treeAt (Reads cache name) t₀ steps now := by
  have hkept : ∀ p : FileTree × Lookup,
      decide (decide (p.2.name = name) = true ∧ Reads cache name p = true) = Reads cache name p := by
    intro p
    by_cases hname : p.2.name = name
    · simp [hname]
    · simp [Reads, readAt, Asks, hname, Ne.symm hname]
  unfold treeAt
  rw [moments_filter, List.find?_filter, List.find?_congr fun p _ => hkept p]

/-! ### Snapshots -/

/-- A look-up in an index that has lived through changes of the tree answers what a new index
answers in the tree at the first moment at which the directory of the name was read to its end, or
in the present tree if it was not. An unreadable version is refused and leaves the index as it was.
So does every look-up that fails otherwise: for a numeral that is too long, or for a name that is.
Look-ups of other names do not matter. Where all names fit, the first moment is the first look-up
of the name that is not refused. -/
theorem lookups_answer_from_snapshot (cache : Path) (t₀ : FileTree)
    (steps : List (Step FileTree Lookup)) (l : Lookup) :
    let t := (run Lookup.leaves (t₀, ofCache cache) steps).1
    let ix := (run Lookup.leaves (t₀, ofCache cache) steps).2
    l.answer t ix = l.answer (treeAt (Reads cache l.name) t₀ steps t) (ofCache cache) ∧
    (∀ name version, Version.parse? version = none →
      (Lookup.find name version).answer t ix =
          .error (.diagnosed (.packageVersion name version)) ∧
        (Lookup.find name version).leaves t ix = ix) ∧
    (∀ e, l.answer t ix = .error e → l.leaves t ix = ix ∧
      (l.refusal = some e ∨ l.refusal = none ∧ e = .breakdown (.file .nameTooLong))) ∧
    l.answer t (run Lookup.leaves (t₀, ofCache cache)
      (steps.filter (Step.keeps fun l' => l'.name = l.name))).2 = l.answer t ix ∧
    ((∀ p ∈ moments t₀ steps, p.1.Fits) → (dirOf cache l.name).Fits →
      treeAt (Reads cache l.name) t₀ steps t = treeAt (Asks l.name) t₀ steps t) := by
  intro t ix
  refine ⟨?snapshot, ?version, ?failure, ?others, ?fits⟩
  case snapshot => exact Lookup.answer_congr (wheelsOf_run cache t₀ steps t l.name)
  case version =>
    intro name version hversion
    have hanswer : (Lookup.find name version).answer t ix =
        .error (.diagnosed (.packageVersion name version)) := by
      rw [Lookup.answer_eq]
      simp [Lookup.refusal, hversion]
    exact ⟨hanswer, Lookup.leaves_of_answer_eq_error t ix _ hanswer⟩
  case failure =>
    intro e he
    exact ⟨Lookup.leaves_of_answer_eq_error t ix l he, answer_eq_error he⟩
  case others =>
    apply Lookup.answer_congr
    rw [wheelsOf_run, wheelsOf_run cache t₀ steps t, treeAt_filter]
  case fits =>
    intro hfit hdir
    exact treeAt_reads_eq_treeAt_asks hfit hdir t

/-! ### A first look-up that fixes nothing -/

/-- A name that no directory can hold. -/
def longName : String := String.ofList (List.replicate 256 'a')

/-- A tree in which the directory of `x` is a link into `d`, to a name that is too long. -/
def strayTree : FileTree := ⟨.dir [("d", .dir []), ("x", .link ("d/" ++ longName))], []⟩

/-- The same tree without `d`. -/
def prunedTree : FileTree := ⟨.dir [("x", .link ("d/" ++ longName))], []⟩

theorem longName_is_long : FileTree.maxNameSize < longName.utf8ByteSize := by
  have hsize : longName.utf8ByteSize = String.utf8Len (List.replicate 256 'a') :=
    String.utf8ByteSize_ofList _
  rw [hsize]
  decide +kernel

theorem longName_ne {name : String} (h : PinLedger.Fits name) : longName ≠ name := by
  rintro rfl
  exact absurd longName_is_long (Nat.not_lt.mpr h)

theorem slash_not_mem_longName : '/' ∉ longName.toList := by
  have hchars : longName.toList = List.replicate 256 'a' := String.toList_ofList
  intro h
  have hslash : '/' = 'a' := List.eq_of_mem_replicate (hchars ▸ h)
  exact absurd hslash (by decide)

theorem targetNames_below {name : String} (hplain : '/' ∉ name.toList) (hname : name ≠ "") :
    FileTree.targetNames ("d/" ++ name) = ["d", name] := by
  have hchars : ("d/" ++ name).toList = ['d'] ++ '/' :: name.toList := String.toList_append
  have hsplit : Text.split '/' ("d/" ++ name) = ["d", name] := by
    rw [Text.split, hchars, Text.splitAt_append _ (by decide), Text.splitAt_of_not_mem hplain,
      List.map_cons, List.map_cons, String.ofList_toList]
    rfl
  simp [FileTree.targetNames, hsplit, hname]

theorem targetNames_longName : FileTree.targetNames ("d/" ++ longName) = ["d", longName] :=
  targetNames_below slash_not_mem_longName (longName_ne (by decide))

theorem find_strayTree : strayTree.find ⟨.top, ["x"]⟩ = .error .nameTooLong := by
  have hplain : IsPlain longName :=
    ⟨not_or.mpr ⟨longName_ne (by decide), longName_ne (by decide)⟩, longName_ne (by decide)⟩
  have hbelow : strayTree.walk true (FileTree.maxLinks - 1) ["d"] [longName] =
      .error .nameTooLong := FileTree.walk_of_long rfl hplain longName_is_long
  have hwalk : strayTree.walk true (FileTree.maxLinks - 1) [] ["d", longName] =
      .error .nameTooLong :=
    (FileTree.walk_of_lookup rfl (by decide) (by decide) rfl rfl).trans hbelow
  rw [FileTree.find_top_link rfl (by decide) (by decide) rfl, targetNames_longName, hwalk]
  rfl

theorem find_prunedTree : prunedTree.find ⟨.top, ["x"]⟩ = .error .missing := by
  have hwalk : prunedTree.walk true (FileTree.maxLinks - 1) [] ["d", longName] =
      .error .missing := FileTree.walk_of_missing rfl (by decide) (by decide) rfl
  rw [FileTree.find_top_link rfl (by decide) (by decide) rfl, targetNames_longName, hwalk]
  rfl

/-- The first look-up of `x` fails, as the link leads to a name that is too long. The second one
does not answer from the tree of the first: by then the link leads nowhere. -/
theorem second_get_answers_from_later_tree :
    let cache := Path.ofText "/"
    let steps := [Step.call (Lookup.get "x"), .change prunedTree]
    let later := run Lookup.leaves (strayTree, ofCache cache) steps
    moments strayTree steps = [(strayTree, .get "x")] ∧
      (Lookup.get "x").answer strayTree (ofCache cache) =
        .error (.breakdown (.file .nameTooLong)) ∧
      (Lookup.get "x").answer later.1 later.2 = .ok (.wheels []) := by
  have hdir : dirOf (Path.ofText "/") (Name.pypi "x") = ⟨.top, ["x"]⟩ := by decide +kernel
  have hfirst : (Lookup.get "x").answer strayTree (ofCache (Path.ofText "/")) =
      .error (.breakdown (.file .nameTooLong)) := by
    rw [Lookup.answer_eq]
    simp only [Lookup.refusal, Lookup.name, wheelsOf_ofCache, result_scan, hdir, find_strayTree]
    rfl
  refine ⟨rfl, hfirst, ?_⟩
  change (Lookup.get "x").answer prunedTree
    ((Lookup.get "x").leaves strayTree (ofCache (Path.ofText "/"))) = _
  rw [Lookup.leaves_of_answer_eq_error _ _ _ hfirst, Lookup.answer_eq]
  simp only [Lookup.refusal, Lookup.name, wheelsOf_ofCache, result_scan, hdir, find_prunedTree]
  rfl

end PinLedger.WheelIndex

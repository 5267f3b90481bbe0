/-
# Places in a tree

A place is a list of names as directories hold them. A walk along the names of a place goes straight
down to it, and follows no link.

A path that goes up from the working directory first and then down, or down from the top, leads to
a place without looking at links, if what lies on its way are directories. Such paths are all that
a path without links is resolved to.

Key definitions: `FileTree.IsPlace`, `FileTree.DirectoryAt`, `FileTree.Grounded`,
`FileTree.LeadsTo`, `FileTree.placeOf`.
Key theorems: `FileTree.walk_place`, `FileTree.find_place`, `FileTree.LeadsTo.walk`,
`FileTree.LeadsTo.placeOf_eq`.
-/
import PinLedger.Files.Resolve
import PinLedger.Proofs.Files.Walk

namespace PinLedger

namespace Node

theorem at?_append (n : Node) (front rest : List String) :
    n.at? (front ++ rest) = (n.at? front).bind (·.at? rest) := by
  induction front generalizing n with
  | nil => rfl
  | cons name names ih =>
    change (n.child? name).bind _ = ((n.child? name).bind _).bind _
    rw [Option.bind_assoc]
    exact congrArg _ (funext ih)

theorem at?_concat {n m : Node} {names : List String} {entries : List (String × Node)}
    {name : String} (hat : n.at? names = some (.dir entries)) (hn : entries.lookup name = some m) :
    n.at? (names ++ [name]) = some m := by
  rw [at?_append, hat]
  change (entries.lookup name).bind _ = _
  rw [hn]
  rfl

/-- What has something below it is a directory. -/
theorem at?_cons_eq_some {n m : Node} {name : String} {names : List String}
    (h : n.at? (name :: names) = some m) :
    ∃ entries child, n = .dir entries ∧ entries.lookup name = some child ∧
      child.at? names = some m := by
  obtain ⟨child, hchild, hrest⟩ := Option.bind_eq_some_iff.mp h
  cases n with
  | file content => cases hchild
  | link target => cases hchild
  | dir entries => exact ⟨entries, child, rfl, hchild, hrest⟩

/-- Above a directory there are directories only. -/
theorem at?_of_prefix {n : Node} {front rest : List String} {entries : List (String × Node)}
    (h : n.at? (front ++ rest) = some (.dir entries)) :
    ∃ above, n.at? front = some (.dir above) := by
  rw [at?_append] at h
  obtain ⟨m, hm, hrest⟩ := Option.bind_eq_some_iff.mp h
  cases rest with
  | nil =>
    obtain rfl := Option.some.inj hrest
    exact ⟨entries, hm⟩
  | cons name names =>
    obtain ⟨above, -, rfl, -⟩ := at?_cons_eq_some hrest
    exact ⟨above, hm⟩

end Node

namespace FileTree

/-- Every name of a list stands for itself and is short enough for a directory. -/
def IsPlace (place : List String) : Prop := ∀ name ∈ place, IsPlain name ∧ PinLedger.Fits name

theorem isPlace_nil : IsPlace [] := fun _ h => absurd h List.not_mem_nil

theorem IsPlace.of_sublist {place place' : List String} (h : IsPlace place)
    (hsub : place'.Sublist place) : IsPlace place' := fun name hname => h name (hsub.subset hname)

theorem IsPlace.append {place : List String} (h : IsPlace place) {name : String}
    (hplain : IsPlain name) (hfits : PinLedger.Fits name) : IsPlace (place ++ [name]) := by
  intro n hn
  rcases List.mem_append.mp hn with hn | hn
  · exact h n hn
  · rw [List.mem_singleton.mp hn]
    exact ⟨hplain, hfits⟩

variable {t : FileTree} {followLast : Bool} {links : Nat} {here place : List String} {n : Node}

theorem walk_place (hplace : IsPlace place) (hat : t.top.at? (here ++ place) = some n)
    (hlink : n.isLink = false) (rest : List String) :
    t.walk followLast links here (place ++ rest) =
      t.walk followLast links (here ++ place) rest := by
  induction place generalizing here with
  | nil => rw [List.append_nil, List.nil_append]
  | cons name names ih =>
    obtain ⟨⟨hplain, hfits⟩, hnames⟩ := List.forall_mem_cons.mp hplace
    have hassoc : here ++ name :: names = (here ++ [name]) ++ names := by simp
    rw [hassoc] at hat
    have hbelow := hat
    rw [List.append_assoc, Node.at?_append] at hat
    obtain ⟨m, hm, hrest⟩ := Option.bind_eq_some_iff.mp hat
    obtain ⟨entries, child, rfl, hlookup, hchild⟩ := Node.at?_cons_eq_some hrest
    have hnoLink : child.isLink = false := by
      cases names with
      | nil =>
        obtain rfl := Option.some.inj hchild
        exact hlink
      | cons next more =>
        obtain ⟨_, _, rfl, -⟩ := Node.at?_cons_eq_some hchild
        rfl
    rw [List.cons_append, walk_of_lookup hm hplain hfits hlookup hnoLink, ih hnames hbelow, hassoc]

theorem locate_place (hplace : IsPlace place) (hat : t.top.at? place = some n)
    (hlink : n.isLink = false) : t.locate ⟨.top, place⟩ = .ok (place, n) := by
  have hdown : t.walk true maxLinks [] (place ++ []) = t.walk true maxLinks place [] :=
    walk_place hplace hat hlink []
  rw [List.append_nil] at hdown
  exact hdown.trans (walk_nil hat)

theorem find_place (hplace : IsPlace place) (hat : t.top.at? place = some n)
    (hlink : n.isLink = false) : t.find ⟨.top, place⟩ = .ok n := by
  unfold find
  rw [locate_place hplace hat hlink]
  rfl

theorem find_below_missing {entries : List (String × Node)} {name : String}
    (hplace : IsPlace place) (hat : t.top.at? place = some (.dir entries)) (hplain : IsPlain name)
    (hfits : PinLedger.Fits name) (hn : entries.lookup name = none) :
    t.find ⟨.top, place ++ [name]⟩ = .error .missing := by
  have hdown : t.walk true maxLinks [] (place ++ [name]) = t.walk true maxLinks place [name] :=
    walk_place hplace hat rfl [name]
  rw [walk_of_missing hat hplain hfits hn] at hdown
  exact congrArg (Except.map (·.2)) hdown

/-- At a place there is a directory. -/
structure DirectoryAt (t : FileTree) (place : List String) : Prop where
  isPlace : IsPlace place
  dir : ∃ entries, t.top.at? place = some (.dir entries)

namespace DirectoryAt

theorem find (h : t.DirectoryAt place) : ∃ entries, t.find ⟨.top, place⟩ = .ok (.dir entries) := by
  obtain ⟨entries, hat⟩ := h.dir
  exact ⟨entries, find_place h.isPlace hat rfl⟩

theorem take (h : t.DirectoryAt place) (n : Nat) : t.DirectoryAt (place.take n) where
  isPlace := h.isPlace.of_sublist (List.take_sublist n place)
  dir := by
    obtain ⟨entries, hat⟩ := h.dir
    rw [← List.take_append_drop n place] at hat
    exact Node.at?_of_prefix hat

end DirectoryAt

/-! ### Up first, then down -/

/-- Taking away the last of the names that are left when going up. -/
theorem dropLast_take_sub (names : List String) (up : Nat) :
    (names.take (names.length - up)).dropLast = names.take (names.length - (up + 1)) := by
  rw [List.dropLast_eq_take, List.take_take, List.length_take]
  congr 1
  omega

theorem walk_up {entries : List (String × Node)} (hat : t.top.at? here = some (.dir entries))
    (up : Nat) (rest : List String) :
    t.walk followLast links here (List.replicate up ".." ++ rest) =
      t.walk followLast links (here.take (here.length - up)) rest := by
  induction up generalizing rest with
  | zero => simp
  | succ up ih =>
    have hfront : here.take (here.length - up) ++ here.drop (here.length - up) = here :=
      List.take_append_drop _ _
    rw [← hfront] at hat
    obtain ⟨above, habove⟩ := Node.at?_of_prefix hat
    rw [List.replicate_succ', List.append_assoc, ih, List.singleton_append, walk_of_up habove,
      dropLast_take_sub]

/-- The working directory is a directory of the tree. -/
abbrev Grounded (t : FileTree) : Prop := t.DirectoryAt t.here

/-- A path without links leads to a place: down from the top, or from the working directory some
steps up and then down. -/
inductive LeadsTo (t : FileTree) : Path → List String → Prop
  | top {place : List String} (hplace : IsPlace place) : LeadsTo t ⟨.top, place⟩ place
  | here (up : Nat) {down : List String} (hdown : IsPlace down) :
    LeadsTo t ⟨.here, List.replicate up ".." ++ down⟩
      (t.here.take (t.here.length - up) ++ down)

/-- The place that the text of a path says. -/
def placeOf (t : FileTree) (p : Path) : List String :=
  collapse (if p.isAbsolute then p.names else t.here ++ p.names)

theorem IsPlace.ne_up (h : IsPlace place) {name : String} (hname : name ∈ place) : name ≠ ".." :=
  (h name hname).1.2

/-- One name of a path, met by `collapse` with what it kept so far, last name first. -/
def collapseStep (kept : List String) (name : String) : List String :=
  if name = ".." then kept.drop 1 else name :: kept

theorem foldl_collapseStep_place (h : IsPlace place) (kept : List String) :
    place.foldl collapseStep kept = place.reverse ++ kept := by
  induction place generalizing kept with
  | nil => rfl
  | cons name names ih =>
    obtain ⟨hname, hnames⟩ := List.forall_mem_cons.mp h
    rw [List.foldl_cons, collapseStep, if_neg hname.1.2, ih hnames]
    simp

theorem foldl_collapseStep_up (up : Nat) (kept : List String) :
    (List.replicate up "..").foldl collapseStep kept = kept.drop up := by
  induction up generalizing kept with
  | zero => rfl
  | succ up ih =>
    rw [List.replicate_succ, List.foldl_cons, collapseStep, if_pos rfl, ih, List.drop_drop,
      Nat.add_comm]

theorem collapse_of_route {front down : List String} (up : Nat) (hfront : IsPlace front)
    (hdown : IsPlace down) : collapse (front ++ (List.replicate up ".." ++ down)) =
      front.take (front.length - up) ++ down := by
  change ((front ++ (List.replicate up ".." ++ down)).foldl collapseStep []).reverse = _
  rw [List.foldl_append, List.foldl_append, foldl_collapseStep_place hfront,
    foldl_collapseStep_up, foldl_collapseStep_place hdown, List.append_nil, List.drop_reverse,
    ← List.reverse_append, List.reverse_reverse]

theorem stepUp_replicate (up : Nat) :
    stepUp ⟨.here, List.replicate up ".."⟩ = ⟨.here, List.replicate (up + 1) ".."⟩ := by
  cases up with
  | zero => rfl
  | succ up =>
    have hlast : (List.replicate (up + 1) "..").getLast? = some ".." := by
      rw [List.replicate_succ', List.getLast?_concat]
    unfold stepUp
    rw [hlast, List.replicate_succ' (n := up + 1)]
    rfl

namespace LeadsTo

variable {p : Path}

/-- Where a path leads can be read off its text. -/
theorem placeOf_eq (ht : t.Grounded) (h : LeadsTo t p place) : t.placeOf p = place := by
  cases h with
  | top hplace =>
    have hdown := collapse_of_route 0 isPlace_nil hplace
    exact hdown
  | here up hdown => exact collapse_of_route up ht.isPlace hdown

theorem isPlace (ht : t.Grounded) (h : LeadsTo t p place) : IsPlace place := by
  cases h with
  | top hplace => exact hplace
  | here up hdown =>
    intro name hname
    rcases List.mem_append.mp hname with hname | hname
    · exact ht.isPlace name (List.mem_of_mem_take hname)
    · exact hdown name hname

theorem child (h : LeadsTo t p place) {name : String} (hplain : IsPlain name)
    (hfits : PinLedger.Fits name) : LeadsTo t (p.child name) (place ++ [name]) := by
  cases h with
  | top hplace => exact .top (hplace.append hplain hfits)
  | here up hdown =>
    have hchild := LeadsTo.here (t := t) up (hdown.append hplain hfits)
    rw [← List.append_assoc, ← List.append_assoc] at hchild
    exact hchild

theorem stepUp (h : LeadsTo t p place) : LeadsTo t (stepUp p) place.dropLast := by
  cases h with
  | top hplace =>
    rcases List.eq_nil_or_concat place with rfl | ⟨front, last, rfl⟩
    · exact .top isPlace_nil
    · have hlast : last ≠ ".." := hplace.ne_up (by simp)
      rw [List.concat_eq_append] at hplace ⊢
      simp only [FileTree.stepUp, List.getLast?_concat, if_neg hlast]
      exact .top (hplace.of_sublist (List.dropLast_sublist _))
  | @here up down hdown =>
    rcases List.eq_nil_or_concat down with rfl | ⟨front, last, rfl⟩
    · -- All names are `..`, and one more is added.
      have hmore := LeadsTo.here (t := t) (up + 1) isPlace_nil
      rw [List.append_nil, List.append_nil] at hmore
      rwa [List.append_nil, List.append_nil, stepUp_replicate, dropLast_take_sub]
    · rw [List.concat_eq_append] at hdown ⊢
      have hlast : last ≠ ".." := hdown.ne_up (by simp)
      rw [← List.append_assoc, ← List.append_assoc, List.dropLast_concat]
      simp only [FileTree.stepUp, List.getLast?_concat, if_neg hlast, List.dropLast_concat]
      exact .here up (hdown.of_sublist (List.sublist_append_left _ _))

/-- A walk along a path without links comes to the place that the path leads to. -/
theorem walk (ht : t.Grounded) (h : LeadsTo t p place) (hat : t.top.at? place = some n)
    (hlink : n.isLink = false) (rest : List String) :
    t.walk followLast links (t.start p) (p.names ++ rest) =
      t.walk followLast links place rest := by
  cases h with
  | top hplace =>
    have hdown : t.walk followLast links [] (place ++ rest) = t.walk followLast links place rest :=
      walk_place hplace hat hlink rest
    exact hdown
  | here up hdown =>
    obtain ⟨entries, hdir⟩ := ht.dir
    rw [List.append_assoc]
    exact (walk_up hdir up _).trans (walk_place hdown hat hlink rest)

end LeadsTo

end FileTree

end PinLedger

/-
# The shape of a file tree

The shape of a tree is where its directories, files and links are and what the links point to. In
which order directories list their entries and what files hold is no part of it. In trees of the
same shape a walk ends alike, so what can be found at a path is the same, and so are the names that
a directory holds, but for their order.

Key definitions: `Node.shape`, `Node.SameShape`, `Node.names`, `FileTree.namesAt`.
Key theorems: `Node.sameShape_of_perm`, `FileTree.walk_of_sameShape`,
`FileTree.find_of_sameShape`, `FileTree.namesAt_of_sameShape`.
-/
import PinLedger.Proofs.Files.Below
import PinLedger.Proofs.Files.Resolution

namespace PinLedger

namespace Node

/-- What a node is, and what it points to if it is a link. -/
def shape : Node → Node
  | .file _ => .file (.zeros 0)
  | .link target => .link target
  | .dir _ => .dir []

/-- At the same names there is the same, but for what files hold and for the order of entries. -/
def SameShape (n m : Node) : Prop := ∀ names, (n.at? names).map shape = (m.at? names).map shape

variable {n m : Node} {path : List String} {es : List (String × Node)} {name : String}

@[simp] theorem isDir_shape (n : Node) : n.shape.isDir = n.isDir := by
  cases n <;> rfl

@[simp] theorem isLink_shape (n : Node) : n.shape.isLink = n.isLink := by
  cases n <;> rfl

theorem shape_eq_dir_iff : n.shape = .dir [] ↔ ∃ es, n = .dir es := by
  cases n <;> simp [shape]

theorem shape_eq_link_iff {target : String} : n.shape = .link target ↔ n = .link target := by
  cases n <;> simp [shape]

namespace SameShape

/-- Where there is a node there is one of its shape. -/
theorem at?_eq_some (h : n.SameShape m) {n' : Node} (hn : n.at? path = some n') :
    ∃ m', m.at? path = some m' ∧ m'.shape = n'.shape := by
  have hboth := h path
  rw [hn] at hboth
  exact Option.map_eq_some_iff.mp hboth.symm

theorem at?_eq_none (h : n.SameShape m) (hn : n.at? path = none) : m.at? path = none := by
  have hboth := h path
  rw [hn] at hboth
  exact Option.map_eq_none_iff.mp hboth.symm

theorem at?_dir (h : n.SameShape m) (hn : n.at? path = some (.dir es)) :
    ∃ es', m.at? path = some (.dir es') := by
  obtain ⟨m', hm, hshape⟩ := h.at?_eq_some hn
  obtain ⟨es', rfl⟩ := shape_eq_dir_iff.mp hshape
  exact ⟨es', hm⟩

/-- Directories at the same names have entries of the same shapes. -/
theorem lookup (h : n.SameShape m) {es' : List (String × Node)} (hn : n.at? path = some (.dir es))
    (hm : m.at? path = some (.dir es')) (name : String) :
    (es.lookup name).map shape = (es'.lookup name).map shape := by
  have hbelow : ∀ {n : Node} {es}, n.at? path = some (.dir es) →
      n.at? (path ++ [name]) = es.lookup name := fun {n es} hat => by
    rw [at?_append, hat]
    exact Option.bind_fun_some _
  have hboth := h (path ++ [name])
  rwa [hbelow hn, hbelow hm] at hboth

theorem lookup_link (h : n.SameShape m) {es' : List (String × Node)}
    (hn : n.at? path = some (.dir es)) (hm : m.at? path = some (.dir es')) {target : String}
    (hlookup : es.lookup name = some (.link target)) : es'.lookup name = some (.link target) := by
  have hboth := h.lookup hn hm name
  rw [hlookup] at hboth
  obtain ⟨m', hm', hshape⟩ := Option.map_eq_some_iff.mp hboth.symm
  rw [hm', shape_eq_link_iff.mp hshape]

end SameShape

/-! ### The names in a directory -/

/-- The names that a directory holds. -/
def names : Node → List String
  | .dir entries => entries.map Prod.fst
  | _ => []

theorem Proper.nodup_names (h : n.Proper) : n.names.Nodup := by
  cases n with
  | file content => exact List.nodup_nil
  | link target => exact List.nodup_nil
  | dir entries =>
    have hentries : EntriesProper entries := h
    clear h
    induction entries with
    | nil => exact List.nodup_nil
    | cons e es ih =>
      obtain ⟨name, n⟩ := e
      obtain ⟨-, hfresh, -, hes⟩ := hentries
      refine List.nodup_cons.mpr ⟨fun hmem => ?_, ih hes⟩
      obtain ⟨e, he, hname⟩ := List.mem_map.mp hmem
      exact hfresh e he hname

theorem isSome_lookup_iff : (es.lookup name).isSome ↔ name ∈ es.map Prod.fst := by
  rw [← not_iff_not, Bool.not_eq_true, Option.isSome_eq_false_iff, Option.isNone_iff_eq_none,
    List.lookup_eq_none_iff, List.mem_map, not_exists]
  refine forall_congr' fun e => ?_
  rw [bne_iff_ne, not_and, ne_comm]

/-- Nodes at the same names hold the same names. -/
theorem SameShape.perm_names (h : n.SameShape m) {n' m' : Node} (hn : n.at? path = some n')
    (hm : m.at? path = some m') (hn' : n'.Proper) (hm' : m'.Proper) : n'.names.Perm m'.names := by
  rw [List.perm_ext_iff_of_nodup hn'.nodup_names hm'.nodup_names]
  have hshape := h path
  rw [hn, hm] at hshape
  cases n' with
  | file content => cases m' <;> first | exact fun _ => Iff.rfl | cases hshape
  | link target => cases m' <;> first | exact fun _ => Iff.rfl | cases hshape
  | dir es =>
    obtain ⟨es', rfl⟩ := shape_eq_dir_iff.mp (Option.some.inj hshape).symm
    intro name
    have hboth := congrArg Option.isSome (h.lookup hn hm name)
    rw [Option.isSome_map, Option.isSome_map] at hboth
    change name ∈ es.map Prod.fst ↔ name ∈ es'.map Prod.fst
    rw [← isSome_lookup_iff, ← isSome_lookup_iff, hboth]

/-! ### Directories that list their entries in another order -/

variable {es' : List (String × Node)}

theorem lookup_of_perm (hes : EntriesProper es) (hes' : EntriesProper es') (h : es.Perm es')
    (name : String) : es.lookup name = es'.lookup name :=
  Option.ext fun _ =>
    ⟨fun hn => hes'.lookup (h.subset (mem_of_lookup hn)),
      fun hn => hes.lookup (h.symm.subset (mem_of_lookup hn))⟩

/-- Directories with the same entries have one shape. -/
theorem sameShape_of_perm (hes : EntriesProper es) (hes' : EntriesProper es') (h : es.Perm es') :
    (Node.dir es).SameShape (.dir es') := by
  intro names
  cases names with
  | nil => rfl
  | cons name rest =>
    have hchild : (Node.dir es).child? name = (Node.dir es').child? name :=
      lookup_of_perm hes hes' h name
    rw [at?, at?, hchild]

/-- Where one entry is replaced by one of the same shape, a directory keeps its shape. -/
theorem sameShape_of_entry (h : n.SameShape m) (before after : List (String × Node))
    (name : String) :
    (Node.dir (before ++ (name, n) :: after)).SameShape
      (.dir (before ++ (name, m) :: after)) := by
  intro names
  cases names with
  | nil => rfl
  | cons first rest =>
    rw [at?, at?, child?, child?]
    rcases lookup_of_entry n m before after name first with hsame | ⟨hn, hm⟩
    · rw [hsame]
    · rw [hn, hm]
      exact h rest

end Node

namespace FileTree

variable {t t' : FileTree}

/-- Where a walk ends, with the shape of the node there. -/
def shaped (r : Except OsReason (List String × Node)) : Except OsReason (List String × Node) :=
  r.map fun p => (p.1, p.2.shape)

/-- In a tree of the same shape a walk ends alike. -/
theorem walk_of_sameShape (h : t.top.SameShape t'.top) (followLast : Bool) (links : Nat)
    (here names : List String) :
    shaped (t'.walk followLast links here names) =
      shaped (t.walk followLast links here names) := by
  fun_induction t.walk followLast links here names with
  | case1 links here n hat =>
    obtain ⟨m, hm, hshape⟩ := h.at?_eq_some hat
    rw [walk_nil hm]
    exact congrArg (fun s => Except.ok (here, s)) hshape
  | case2 links here hat | case12 links here name names hat =>
    rw [walk, h.at?_eq_none hat]
  | case3 links here name names entries hat hdot ih =>
    obtain ⟨entries', hat'⟩ := h.at?_dir hat
    rw [walk_of_dot hat' hdot]
    exact ih
  | case4 links here names entries hat hdot ih =>
    obtain ⟨entries', hat'⟩ := h.at?_dir hat
    rw [walk_of_up hat']
    exact ih
  | case5 links here name names entries hat hdot hup hlong =>
    obtain ⟨entries', hat'⟩ := h.at?_dir hat
    rw [walk_of_long hat' ⟨hdot, hup⟩ hlong]
  | case6 links here name names entries hat hdot hup hfit hlookup =>
    obtain ⟨entries', hat'⟩ := h.at?_dir hat
    have hlookup' := h.lookup hat hat' name
    rw [hlookup] at hlookup'
    rw [walk_of_missing hat' ⟨hdot, hup⟩ (Nat.not_lt.mp hfit)
      (Option.map_eq_none_iff.mp hlookup'.symm)]
  | case7 links here name names entries hat hdot hup hfit target hlookup hlast =>
    obtain ⟨entries', hat'⟩ := h.at?_dir hat
    rw [walk_of_last_link hat' ⟨hdot, hup⟩ (Nat.not_lt.mp hfit) (h.lookup_link hat hat' hlookup)
      hlast]
  | case8 here name names entries hat hdot hup hfit target hlookup hlast =>
    obtain ⟨entries', hat'⟩ := h.at?_dir hat
    rw [walk_of_loop hat' ⟨hdot, hup⟩ (Nat.not_lt.mp hfit) (h.lookup_link hat hat' hlookup) hlast]
  | case9 here name names entries hat hdot hup hfit target hlookup hlast more start ih =>
    obtain ⟨entries', hat'⟩ := h.at?_dir hat
    rw [walk_of_link hat' ⟨hdot, hup⟩ (Nat.not_lt.mp hfit) (h.lookup_link hat hat' hlookup) hlast]
    exact ih
  | case10 links here name names entries hat hdot hup hfit n hlink hlookup ih =>
    obtain ⟨entries', hat'⟩ := h.at?_dir hat
    have hlookup' := h.lookup hat hat' name
    rw [hlookup] at hlookup'
    obtain ⟨m, hm, hshape⟩ := Option.map_eq_some_iff.mp hlookup'.symm
    have hreal : m.isLink = false := by
      rw [← Node.isLink_shape, hshape, Node.isLink_shape]
      exact Node.isLink_eq_false hlink
    rw [walk_of_lookup hat' ⟨hdot, hup⟩ (Nat.not_lt.mp hfit) hm hreal]
    exact ih
  | case11 links here name names n hdir hat =>
    obtain ⟨m, hm, hshape⟩ := h.at?_eq_some hat
    rw [walk, hm]
    cases m with
    | dir entries =>
      obtain ⟨es, rfl⟩ := Node.shape_eq_dir_iff.mp hshape.symm
      exact absurd rfl (hdir es)
    | file content => rfl
    | link target => rfl

theorem locate_of_sameShape (h : t.top.SameShape t'.top) (hhere : t'.here = t.here) (p : Path) :
    shaped (t'.locate p) = shaped (t.locate p) := by
  have hstart : t'.start p = t.start p := by
    unfold start
    rw [hhere]
  unfold locate
  rw [hstart]
  exact walk_of_sameShape h true maxLinks (t.start p) p.names

theorem exists_locate_eq_ok {p : Path} {n : Node} (h : t.find p = .ok n) :
    ∃ place, t.locate p = .ok (place, n) ∧ t.top.at? place = some n := by
  unfold find at h
  cases hlocate : t.locate p with
  | error reason =>
    rw [hlocate] at h
    cases h
  | ok found =>
    rw [hlocate] at h
    obtain rfl : found.2 = n := Except.ok.inj h
    exact ⟨found.1, rfl, (goes_of_walk hlocate).2⟩

/-- What is found at a path has the same shape, or cannot be found for the same reason. -/
theorem find_of_sameShape (h : t.top.SameShape t'.top) (hhere : t'.here = t.here) (p : Path) :
    (t'.find p).map Node.shape = (t.find p).map Node.shape := by
  have hboth := congrArg (Except.map Prod.snd) (locate_of_sameShape h hhere p)
  unfold find
  cases h₁ : t'.locate p <;> cases h₂ : t.locate p <;> rw [h₁, h₂] at hboth <;> exact hboth

theorem isDir?_of_sameShape (h : t.top.SameShape t'.top) (hhere : t'.here = t.here) (p : Path) :
    t'.isDir? p = t.isDir? p := by
  have hask : ∀ found : Except OsReason Node,
      ask p found Node.isDir = ask p (found.map Node.shape) Node.isDir := fun found => by
    cases found with
    | ok n => exact congrArg Except.ok (Node.isDir_shape n).symm
    | error reason => cases reason <;> rfl
  unfold isDir?
  rw [hask, find_of_sameShape h hhere, ← hask]

/-! ### What a directory holds -/

/-- The names that the directory at a path holds; none where there is no directory. -/
def namesAt (t : FileTree) (p : Path) : List String :=
  match t.find p with
  | .ok n => n.names
  | .error _ => []

theorem namesAt_of_find {p : Path} {n : Node} (h : t.find p = .ok n) : t.namesAt p = n.names := by
  unfold namesAt
  rw [h]

theorem nodup_namesAt (ht : t.top.Proper) (p : Path) : (t.namesAt p).Nodup := by
  unfold namesAt
  split
  · next n hfind =>
    obtain ⟨place, -, hat⟩ := exists_locate_eq_ok hfind
    exact (ht.at? hat).nodup_names
  · exact List.nodup_nil

/-- A directory holds the same names in a tree of the same shape. -/
theorem namesAt_of_sameShape (h : t.top.SameShape t'.top) (hhere : t'.here = t.here)
    (ht : t.top.Proper) (ht' : t'.top.Proper) (p : Path) :
    (t'.namesAt p).Perm (t.namesAt p) := by
  have hlocate := locate_of_sameShape h hhere p
  unfold namesAt find
  cases hfound : t.locate p with
  | error reason =>
    cases hfound' : t'.locate p with
    | error reason' => exact .refl _
    | ok found' =>
      rw [hfound, hfound'] at hlocate
      cases hlocate
  | ok found =>
    cases hfound' : t'.locate p with
    | error reason' =>
      rw [hfound, hfound'] at hlocate
      cases hlocate
    | ok found' =>
      rw [hfound, hfound'] at hlocate
      have hshaped : (found'.1, found'.2.shape) = (found.1, found.2.shape) := Except.ok.inj hlocate
      have hplace : found'.1 = found.1 := (Prod.mk.inj hshaped).1
      have hat := (goes_of_walk hfound).2
      have hat' := (goes_of_walk hfound').2
      rw [hplace] at hat'
      exact (h.perm_names hat hat' (ht.at? hat) (ht'.at? hat')).symm

end FileTree

end PinLedger

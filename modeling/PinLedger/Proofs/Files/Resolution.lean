/-
# Resolving a path that leads somewhere

A walk and a resolution follow the same names, each in its own way. A walk puts the names that a
link points to in front of the names that are left, and follows forty links at most; a resolution
resolves a link on its own before it goes on, and gives up at a link that it is already resolving.
Where the walk comes to an end, the resolution comes to the same place (`resolve_of_locate`).

A link that is met while it is resolved would have to be followed with fewer links than it needs:
that is why the resolution never gives up there. The links that are being resolved are all
different, so there are no more of them than links in the tree, and the depth is never used up.

Key definitions: `FileTree.Goes`, `FileTree.Costly`, `FileTree.Underway`.
Key theorems: `FileTree.resolveNames_of_goes`, `FileTree.resolve_of_goes`,
`FileTree.resolve_of_locate`, `FileTree.resolve_of_isDir`.
-/
import Mathlib.Data.List.Nodup
import Mathlib.Data.List.Perm.Subperm
import Mathlib.Data.Nat.Find
import PinLedger.Proofs.Files.Outline
import PinLedger.Proofs.Files.Places

namespace PinLedger

namespace FileTree

/-! ### Walks that come to an end -/

/-- From `here` the names lead to a place, with at most `links` links on the way. -/
inductive Goes (t : FileTree) : Nat → List String → List String → List String → Prop
  | nil {links : Nat} {here : List String} {n : Node} (hat : t.top.at? here = some n) :
    Goes t links here [] here
  | dot {links : Nat} {here rest place : List String} {entries : List (String × Node)}
    {name : String} (hat : t.top.at? here = some (.dir entries)) (hdot : name = "." ∨ name = "")
    (hrest : Goes t links here rest place) : Goes t links here (name :: rest) place
  | up {links : Nat} {here rest place : List String} {entries : List (String × Node)}
    (hat : t.top.at? here = some (.dir entries)) (hrest : Goes t links here.dropLast rest place) :
    Goes t links here (".." :: rest) place
  | entry {links : Nat} {here rest place : List String} {entries : List (String × Node)}
    {name : String} {n : Node} (hat : t.top.at? here = some (.dir entries)) (hplain : IsPlain name)
    (hfits : PinLedger.Fits name) (hn : entries.lookup name = some n) (hlink : n.isLink = false)
    (hrest : Goes t links (here ++ [name]) rest place) : Goes t links here (name :: rest) place
  | link {links : Nat} {here rest place : List String} {entries : List (String × Node)}
    {name target : String} (hat : t.top.at? here = some (.dir entries)) (hplain : IsPlain name)
    (hfits : PinLedger.Fits name) (hn : entries.lookup name = some (.link target))
    (hrest : Goes t links (if target.startsWith "/" then [] else here) (targetNames target ++ rest)
      place) : Goes t (links + 1) here (name :: rest) place

variable {t : FileTree} {links : Nat} {here names place : List String} {n : Node}

theorem goes_of_walk (h : t.walk true links here names = .ok (place, n)) :
    Goes t links here names place ∧ t.top.at? place = some n := by
  fun_induction t.walk true links here names with
  | case1 links here m hat =>
    obtain ⟨rfl, rfl⟩ := Prod.mk.inj (Except.ok.inj h)
    exact ⟨.nil hat, hat⟩
  | case2 | case5 | case6 | case8 | case11 | case12 => cases h
  | case3 links here name names entries hat hdot ih => exact ⟨.dot hat hdot (ih h).1, (ih h).2⟩
  | case4 links here names entries hat hdot ih => exact ⟨.up hat (ih h).1, (ih h).2⟩
  | case7 links here name names entries hat hdot hup hfit target hlookup hlast => simp at hlast
  | case9 here name names entries hat hdot hup hfit target hlookup hlast more start ih =>
    exact ⟨.link hat ⟨hdot, hup⟩ (Nat.not_lt.mp hfit) hlookup (ih h).1, (ih h).2⟩
  | case10 links here name names entries hat hdot hup hfit m hlink hlookup ih =>
    have hreal := Node.isLink_eq_false hlink
    exact ⟨.entry hat ⟨hdot, hup⟩ (Nat.not_lt.mp hfit) hlookup hreal (ih h).1, (ih h).2⟩

namespace Goes

theorem mono (h : Goes t links here names place) {more : Nat} (hle : links ≤ more) :
    Goes t more here names place := by
  induction h generalizing more with
  | nil hat => exact .nil hat
  | dot hat hdot _ ih => exact .dot hat hdot (ih hle)
  | up hat _ ih => exact .up hat (ih hle)
  | entry hat hplain hfits hn hlink _ ih => exact .entry hat hplain hfits hn hlink (ih hle)
  | link hat hplain hfits hn _ ih =>
    obtain ⟨most, rfl⟩ := Nat.exists_eq_add_of_le' hle
    exact .link hat hplain hfits hn (ih (Nat.le_add_left _ most))

/-- A way along two lists of names has a place between them. -/
theorem split {front rest : List String} (h : Goes t links here (front ++ rest) place) :
    ∃ mid, Goes t links here front mid ∧ Goes t links mid rest place := by
  generalize hnames : front ++ rest = names at h
  induction h generalizing front with
  | nil hat =>
    obtain ⟨rfl, rfl⟩ := List.append_eq_nil_iff.mp hnames
    exact ⟨_, .nil hat, .nil hat⟩
  | dot hat hdot hrest ih =>
    rcases List.append_eq_cons_iff.mp hnames with ⟨rfl, rfl⟩ | ⟨front, rfl, rfl⟩
    · exact ⟨_, .nil hat, .dot hat hdot hrest⟩
    · obtain ⟨mid, hfront, hback⟩ := ih rfl
      exact ⟨mid, .dot hat hdot hfront, hback⟩
  | up hat hrest ih =>
    rcases List.append_eq_cons_iff.mp hnames with ⟨rfl, rfl⟩ | ⟨front, rfl, rfl⟩
    · exact ⟨_, .nil hat, .up hat hrest⟩
    · obtain ⟨mid, hfront, hback⟩ := ih rfl
      exact ⟨mid, .up hat hfront, hback⟩
  | entry hat hplain hfits hn hlink hrest ih =>
    rcases List.append_eq_cons_iff.mp hnames with ⟨rfl, rfl⟩ | ⟨front, rfl, rfl⟩
    · exact ⟨_, .nil hat, .entry hat hplain hfits hn hlink hrest⟩
    · obtain ⟨mid, hfront, hback⟩ := ih rfl
      exact ⟨mid, .entry hat hplain hfits hn hlink hfront, hback⟩
  | link hat hplain hfits hn hrest ih =>
    rcases List.append_eq_cons_iff.mp hnames with ⟨rfl, rfl⟩ | ⟨front, rfl, rfl⟩
    · exact ⟨_, .nil hat, .link hat hplain hfits hn hrest⟩
    · obtain ⟨mid, hfront, hback⟩ := ih (List.append_assoc ..)
      exact ⟨mid, .link hat hplain hfits hn hfront, hback.mono (Nat.le_succ _)⟩

/-- A way that is known is walked. -/
theorem walk_eq_ok (h : Goes t links here names place) :
    ∃ n, t.walk true links here names = .ok (place, n) := by
  induction h with
  | nil hat => exact ⟨_, walk_nil hat⟩
  | dot hat hdot _ ih => rwa [walk_of_dot hat hdot]
  | up hat _ ih => rwa [walk_of_up hat]
  | entry hat hplain hfits hn hlink _ ih => rwa [walk_of_lookup hat hplain hfits hn hlink]
  | link hat hplain hfits hn _ ih => rwa [walk_of_link hat hplain hfits hn (by simp)]

theorem unique {links' : Nat} {place' : List String} (h : Goes t links here names place)
    (h' : Goes t links' here names place') : place = place' := by
  obtain ⟨n, hwalk⟩ := (h.mono (Nat.le_max_left links links')).walk_eq_ok
  obtain ⟨n', hwalk'⟩ := (h'.mono (Nat.le_max_right links links')).walk_eq_ok
  exact congrArg Prod.fst (Except.ok.inj (hwalk.symm.trans hwalk'))

theorem exists_least (h : Goes t links here names place) : ∃ less, Goes t less here names place ∧
    ∀ links place, Goes t links here names place → less ≤ links := by
  classical
  have hsome : ∃ links, Goes t links here names place := ⟨links, h⟩
  exact ⟨Nat.find hsome, Nat.find_spec hsome, fun links' place' h' => Nat.find_min' hsome
    (h.unique h' ▸ h')⟩

end Goes

/-! ### Names that say nothing -/

/-- The names of a list that are neither empty nor `.`. -/
def telling (names : List String) : List String :=
  names.filter fun name => name != "" && name != "."

theorem telling_cons_of_dot {name : String} (hdot : name = "." ∨ name = "") (rest : List String) :
    telling (name :: rest) = telling rest := by
  rcases hdot with rfl | rfl <;> rfl

theorem telling_cons {name : String} (hname : ¬ (name = "." ∨ name = "")) (rest : List String) :
    telling (name :: rest) = name :: telling rest := by
  obtain ⟨hdot, hempty⟩ := not_or.mp hname
  exact List.filter_cons_of_pos (by simp [hdot, hempty])

theorem telling_targetNames (target : String) :
    telling (targetNames target) = telling (Text.split '/' target) := by
  have hlast : telling (if (Text.split '/' target).getLast? == some "" then ["."] else []) =
      [] := by
    split <;> rfl
  unfold telling at hlast ⊢
  unfold targetNames
  rw [List.filter_append, hlast, List.append_nil, List.filter_filter]
  congr 1
  funext name
  cases name != "" <;> simp

/-- Behind other names, the names that say nothing can be left out. -/
theorem Goes.telling_append {front rest : List String}
    (h : Goes t links here (front ++ rest) place) :
    Goes t links here (front ++ FileTree.telling rest) place := by
  generalize hnames : front ++ rest = names at h
  induction h generalizing front rest with
  | nil hat =>
    obtain ⟨rfl, rfl⟩ := List.append_eq_nil_iff.mp hnames
    exact .nil hat
  | dot hat hdot hrest ih =>
    rcases List.append_eq_cons_iff.mp hnames with ⟨rfl, rfl⟩ | ⟨front, rfl, rfl⟩
    · rw [telling_cons_of_dot hdot]
      exact ih (List.nil_append _)
    · exact .dot hat hdot (ih rfl)
  | up hat hrest ih =>
    rcases List.append_eq_cons_iff.mp hnames with ⟨rfl, rfl⟩ | ⟨front, rfl, rfl⟩
    · exact .up hat (ih (List.nil_append _))
    · exact .up hat (ih rfl)
  | entry hat hplain hfits hn hlink hrest ih =>
    rcases List.append_eq_cons_iff.mp hnames with ⟨rfl, rfl⟩ | ⟨front, rfl, rfl⟩
    · rw [telling_cons hplain.1]
      exact .entry hat hplain hfits hn hlink (ih (List.nil_append _))
    · exact .entry hat hplain hfits hn hlink (ih rfl)
  | link hat hplain hfits hn hrest ih =>
    rcases List.append_eq_cons_iff.mp hnames with ⟨rfl, rfl⟩ | ⟨front, rfl, rfl⟩
    · rw [telling_cons hplain.1]
      exact .link hat hplain hfits hn (ih rfl)
    · have hback := ih (List.append_assoc ..)
      rw [List.append_assoc] at hback
      exact .link hat hplain hfits hn hback

theorem Goes.telling (h : Goes t links here names place) :
    Goes t links here (FileTree.telling names) place := by
  rw [← List.nil_append names] at h
  exact h.telling_append

/-! ### There are only so many links -/

theorem mem_linksAmong {entries : List (String × Node)} {name : String} {child : Node}
    (hn : entries.lookup name = some child) {p link : Path}
    (hlink : link ∈ child.linksBelow (p.child name)) : link ∈ Node.linksAmong p entries := by
  obtain ⟨before, after, rfl, -⟩ := List.lookup_eq_some_iff.mp hn
  clear hn
  induction before with
  | nil => exact List.mem_append_left _ hlink
  | cons entry before ih => exact List.mem_append_right _ ih

theorem mem_linksBelow {target : String} (hat : n.at? names = some (.link target)) (p : Path) :
    ⟨p.anchor, p.names ++ names⟩ ∈ n.linksBelow p := by
  induction names generalizing n p with
  | nil =>
    obtain rfl := Option.some.inj hat
    rw [List.append_nil]
    exact List.mem_singleton_self p
  | cons name names ih =>
    obtain ⟨entries, child, rfl, hn, hchild⟩ := Node.at?_cons_eq_some hat
    have hbelow := ih hchild (p.child name)
    rw [Path.child, List.append_assoc] at hbelow
    exact mem_linksAmong hn hbelow

mutual

theorem length_linksBelow (p : Path) : ∀ n : Node, (n.linksBelow p).length = countLinks n
  | .file _ => rfl
  | .link _ => rfl
  | .dir entries => length_linksAmong p entries

theorem length_linksAmong (p : Path) : ∀ entries : List (String × Node),
    (Node.linksAmong p entries).length = countEntryLinks entries
  | [] => rfl
  | (name, n) :: entries => by
    rw [Node.linksAmong, List.length_append, length_linksBelow (p.child name) n,
      length_linksAmong p entries, countEntryLinks]

end

/-- No more different places are links than there are links in the tree. -/
theorem length_le_countLinks {places : List (List String)} (hnodup : places.Nodup)
    (hlinks : ∀ place ∈ places, ∃ target, t.top.at? place = some (.link target)) :
    places.length ≤ countLinks t.top := by
  have hpaths : (places.map fun place => (⟨.top, place⟩ : Path)).Nodup :=
    hnodup.map fun a b hab => (Path.mk.inj hab).2
  have hsub : (places.map fun place => (⟨.top, place⟩ : Path)) ⊆ t.top.linksBelow ⟨.top, []⟩ := by
    intro p hp
    obtain ⟨place, hplace, rfl⟩ := List.mem_map.mp hp
    obtain ⟨target, hat⟩ := hlinks place hplace
    exact mem_linksBelow hat ⟨.top, []⟩
  have hle := (hpaths.subperm hsub).length_le
  rwa [List.length_map, length_linksBelow] at hle

/-! ### Resolving along a way -/

/-- At a place there is a link, and it takes at least `links` links to get to the end of what it
points to. -/
def Costly (t : FileTree) (links : Nat) (place : List String) : Prop :=
  ∃ here name target, place = here ++ [name] ∧ t.top.at? place = some (.link target) ∧
    ∀ less goal, Goes t less (if target.startsWith "/" then [] else here) (targetNames target)
      goal → links ≤ less

/-- Resolving goes on: the links that are being resolved are different and need at least as many
links as are left, and the depth allows for all links of the tree. -/
structure Underway (t : FileTree) (depth : Nat) (pending : List Path) (links : Nat) : Prop where
  deep : countLinks t.top < depth + pending.length
  nodup : (pending.map t.placeOf).Nodup
  costly : ∀ q ∈ pending, Costly t links (t.placeOf q)

namespace Underway

theorem init : Underway t (2 * countLinks t.top + 1) [] links where
  deep := by
    rw [List.length_nil]
    omega
  nodup := List.nodup_nil
  costly _ hq := absurd hq List.not_mem_nil

variable {depth : Nat} {pending : List Path}

theorem of_le (h : Underway t depth pending links) {less : Nat} (hle : less ≤ links) :
    Underway t depth pending less where
  deep := h.deep
  nodup := h.nodup
  costly q hq := by
    obtain ⟨here, name, target, hplace, hat, hcost⟩ := h.costly q hq
    exact ⟨here, name, target, hplace, hat, fun j goal hgoes =>
      Nat.le_trans hle (hcost j goal hgoes)⟩

theorem depth_pos (h : Underway t depth pending links) : 0 < depth := by
  have hle := length_le_countLinks h.nodup fun place hplace => by
    obtain ⟨q, hq, rfl⟩ := List.mem_map.mp hplace
    obtain ⟨_, _, target, -, hat, -⟩ := h.costly q hq
    exact ⟨target, hat⟩
  rw [List.length_map] at hle
  have hdeep := h.deep
  omega

/-- A link that needs fewer links than are left is none of those that are being resolved. -/
theorem placeOf_ne (h : Underway t depth pending (links + 1)) {q : Path} (hq : q ∈ pending)
    {entries : List (String × Node)} {name target : String} {goal : List String}
    (hat : t.top.at? here = some (.dir entries)) (hn : entries.lookup name = some (.link target))
    (hgoes : Goes t links (if target.startsWith "/" then [] else here) (targetNames target) goal) :
    t.placeOf q ≠ here ++ [name] := by
  intro heq
  obtain ⟨here', name', target', hplace, hat', hcost⟩ := h.costly q hq
  obtain ⟨rfl, hname⟩ := List.append_inj' (heq.symm.trans hplace) rfl
  obtain rfl := List.head_eq_of_cons_eq hname
  rw [heq, Node.at?_concat hat hn] at hat'
  obtain rfl := Node.link.inj (Option.some.inj hat')
  exact absurd (hcost links goal hgoes) (Nat.not_succ_le_self links)

/-- A link can be resolved where one more link is left than it needs. -/
theorem next (ht : t.Grounded) {less : Nat}
    (h : Underway t (depth + 1) pending (links + 1)) {p : Path}
    {entries : List (String × Node)} {name target : String} {goal : List String}
    (hp : LeadsTo t (p.child name) (here ++ [name]))
    (hat : t.top.at? here = some (.dir entries)) (hn : entries.lookup name = some (.link target))
    (hgoes : Goes t links (if target.startsWith "/" then [] else here) (targetNames target) goal)
    (hle : less ≤ links) (hleast : ∀ j goal,
      Goes t j (if target.startsWith "/" then [] else here) (targetNames target) goal → less ≤ j) :
    Underway t depth (p.child name :: pending) less where
  deep := by
    have hdeep := h.deep
    rw [List.length_cons]
    omega
  nodup := by
    rw [List.map_cons, List.nodup_cons, hp.placeOf_eq ht]
    refine ⟨fun hmem => ?_, h.nodup⟩
    obtain ⟨q, hq, hplace⟩ := List.mem_map.mp hmem
    exact h.placeOf_ne hq hat hn hgoes hplace
  costly := by
    refine List.forall_mem_cons.mpr ⟨?_, (h.of_le (Nat.le_succ_of_le hle)).costly⟩
    rw [hp.placeOf_eq ht]
    exact ⟨here, name, target, rfl, Node.at?_concat hat hn, hleast⟩

end Underway

/-! ### The way of a resolution -/

section Step

variable {strict : Bool} {depth : Nat} {pending : List Path} {p : Path}
  {entries : List (String × Node)}
  {name target : String} {rest : List String}

/-- The last name of a path without links, asked for without following it. -/
theorem findLink_child (ht : t.Grounded) (hp : LeadsTo t p here)
    (hat : t.top.at? here = some (.dir entries)) (hplain : IsPlain name)
    (hfits : PinLedger.Fits name) (hn : entries.lookup name = some n) :
    t.findLink (p.child name) = .ok n := by
  have hwalk : t.walk false maxLinks (t.start p) (p.names ++ [name]) = .ok (here ++ [name], n) := by
    rw [hp.walk ht hat rfl]
    cases n with
    | link target => exact walk_of_last_link hat hplain hfits hn rfl
    | file content =>
      exact (walk_of_lookup hat hplain hfits hn rfl).trans (walk_nil (Node.at?_concat hat hn))
    | dir entries =>
      exact (walk_of_lookup hat hplain hfits hn rfl).trans (walk_nil (Node.at?_concat hat hn))
  unfold findLink
  exact congrArg (Except.map (·.2)) hwalk

theorem resolveNames_of_entry (hplain : IsPlain name) (hfind : t.findLink (p.child name) = .ok n)
    (hlink : n.isLink = false) : t.resolveNames strict depth pending p (name :: rest) =
      t.resolveNames strict depth pending (p.child name) rest := by
  rw [resolveNames_of_plain t (fun h => hplain.1 h.symm) hplain.2, hfind]
  cases n with
  | link target => cases hlink
  | file content => rfl
  | dir entries => rfl

theorem resolveNames_of_link (hplain : IsPlain name)
    (hfind : t.findLink (p.child name) = .ok (.link target)) (hnew : p.child name ∉ pending)
    {q : Path} (hq : t.resolveNames strict depth (p.child name :: pending)
      (if target.startsWith "/" then ⟨.top, []⟩ else p) (Text.split '/' target) = .ok (q, true)) :
    t.resolveNames strict (depth + 1) pending p (name :: rest) =
      t.resolveNames strict (depth + 1) pending q rest := by
  have hcontains : ¬ pending.contains (p.child name) = true := by simpa using hnew
  rw [resolveNames_of_plain t (fun h => hplain.1 h.symm) hplain.2, hfind]
  dsimp only
  rw [if_neg hcontains, hq]

end Step

/-- **Where a walk comes to an end, a resolution comes to the same place.** -/
theorem resolveNames_of_goes (ht : t.Grounded) (strict : Bool) {depth : Nat}
    {pending : List Path} {p : Path} (h : Goes t links here (FileTree.telling names) place)
    (hp : LeadsTo t p here) (hunder : Underway t depth pending links) :
    ∃ q, t.resolveNames strict depth pending p names = .ok (q, true) ∧ LeadsTo t q place := by
  -- The number of links goes down at a link, the list of names everywhere else.
  induction links using Nat.strongRecOn generalizing here names place depth pending p with
  | ind links ihLinks =>
  induction names generalizing here p with
  | nil =>
    cases h with
    | nil hat => exact ⟨p, by rw [resolveNames], hp⟩
  | cons name rest ih =>
    by_cases hdot : name = "." ∨ name = ""
    · rw [telling_cons_of_dot hdot] at h
      rw [resolveNames, if_pos hdot.symm]
      exact ih h hp
    · rw [telling_cons hdot] at h
      cases h with
      | dot hat hdot' => exact absurd hdot' hdot
      | up hat hrest =>
        rw [resolveNames, if_neg (by decide), if_pos rfl]
        exact ih hrest hp.stepUp
      | entry hat hplain hfits hn hlink hrest =>
        rw [resolveNames_of_entry hplain (findLink_child ht hp hat hplain hfits hn) hlink]
        exact ih hrest (hp.child hplain hfits)
      | @link links _ _ _ entries _ target hat hplain hfits hn hrest =>
        obtain ⟨mid, htarget, hback⟩ := hrest.split
        obtain ⟨less, hless, hleast⟩ := htarget.exists_least
        have hle : less ≤ links := hleast links mid htarget
        have hnext := hp.child hplain hfits
        have hnew : p.child name ∉ pending := fun hmem =>
          hunder.placeOf_ne hmem hat hn htarget (hnext.placeOf_eq ht)
        obtain ⟨depth, rfl⟩ := Nat.exists_eq_add_one.mpr hunder.depth_pos
        have hbase : LeadsTo t (if target.startsWith "/" then ⟨.top, []⟩ else p)
            (if target.startsWith "/" then [] else here) := by
          split
          · exact .top isPlace_nil
          · exact hp
        have hbelow := hless.telling
        rw [telling_targetNames] at hbelow
        obtain ⟨q, hq, hmid⟩ := ihLinks less (Nat.lt_succ_of_le hle) hbelow hbase
          (hunder.next ht hnext hat hn htarget hle hleast)
        rw [resolveNames_of_link hplain (findLink_child ht hp hat hplain hfits hn) hnew hq]
        exact ihLinks links (Nat.lt_succ_self links) hback hmid (hunder.of_le (Nat.le_succ links))

/-- Where a resolution starts, the path does. -/
theorem leadsTo_start (t : FileTree) (p : Path) :
    LeadsTo t (if p.isAbsolute then ⟨.top, []⟩ else ⟨.here, []⟩) (t.start p) := by
  unfold start
  split
  · exact .top isPlace_nil
  · simpa using LeadsTo.here (t := t) 0 isPlace_nil

/-- A path that leads somewhere, be it along more links than are followed for one path, is resolved
to the place it leads to. -/
theorem resolve_of_goes (ht : t.Grounded) (strict : Bool) {p : Path}
    (h : Goes t links (t.start p) p.names place) :
    t.resolve strict p = .ok ⟨.top, place⟩ ∧ IsPlace place := by
  have hgoes := h.telling
  obtain ⟨q, hq, hplace⟩ :=
    resolveNames_of_goes ht strict hgoes (leadsTo_start t p) Underway.init
  have hsame : collapse (if q.isAbsolute then q.names else t.here ++ q.names) = place :=
    hplace.placeOf_eq ht
  refine ⟨?_, hplace.isPlace ht⟩
  unfold resolve
  dsimp only
  rw [hq]
  dsimp only
  rw [hsame]

theorem resolve_of_locate (ht : t.Grounded) {p : Path} (h : t.locate p = .ok (place, n)) :
    t.resolve false p = .ok ⟨.top, place⟩ ∧ IsPlace place :=
  resolve_of_goes ht false (goes_of_walk h).1

/-- A path to a directory is resolved to the place of a directory. -/
theorem resolve_of_isDir (ht : t.Grounded) {p : Path} (h : t.isDir? p = .ok true) :
    ∃ place, t.resolve false p = .ok ⟨.top, place⟩ ∧ t.DirectoryAt place := by
  unfold isDir? ask find at h
  cases hlocate : t.locate p with
  | error reason =>
    rw [hlocate] at h
    cases reason <;> cases h
  | ok found =>
    obtain ⟨place, n⟩ := found
    rw [hlocate] at h
    obtain ⟨hresolve, hplace⟩ := resolve_of_locate ht hlocate
    have hdir : n.isDir = true := Except.ok.inj h
    cases n with
    | dir entries => exact ⟨place, hresolve, hplace, entries, (goes_of_walk hlocate).2⟩
    | file content => cases hdir
    | link target => cases hdir

/-- The place of a directory is what it is resolved to. -/
theorem DirectoryAt.resolve_eq (h : t.DirectoryAt place) (ht : t.Grounded) :
    t.resolve false ⟨.top, place⟩ = .ok ⟨.top, place⟩ := by
  obtain ⟨entries, hat⟩ := h.dir
  exact (resolve_of_locate ht (locate_place h.isPlace hat rfl)).1

end FileTree

end PinLedger

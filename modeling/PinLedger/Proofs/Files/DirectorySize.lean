/-
# The size of a directory

A path that leads to a directory has the size of the files below that directory. It does not matter
which way the path takes: a link at its end is resolved, and leads to where a walk leads. Nor does
it matter which links there are, as long as those on the way of the path stay: the walk finds the
same files and directories.

Key definitions: `FileTree.Sound`, `FileTree.Reaches`, `FileTree.Passes`.
Key theorems: `FileTree.result_sizeAt_of_reaches`, `FileTree.walk_of_sameFiles`,
`FileTree.directory_size`.
-/
import PinLedger.Proofs.Files.Below
import PinLedger.Proofs.Files.Resolution

namespace PinLedger.FileTree

open Node

/-- The working directory is a directory of the tree, and directories give every name once, and
only names that stand for themselves and fit. -/
structure Sound (t : FileTree) : Prop where
  grounded : t.Grounded
  proper : t.top.Proper

/-- A path leads to a node at a place. The links on its way are followed, no more than are allowed
for one path; only a path that is itself a link is resolved whatever it takes. -/
def Reaches (t : FileTree) (p : Path) (place : List String) (n : Node) : Prop :=
  ∃ links, t.walk true links (t.start p) p.names = .ok (place, n) ∧
    (links ≤ maxLinks ∨ t.isLink? p = .ok true)

variable {t t' : FileTree} {links : Nat} {here names place : List String} {n : Node} {p : Path}

/-! ### The size that is found -/

/-- A way that is known is also known up to a link at its end. -/
theorem Goes.walk_last (h : Goes t links here names place) :
    ∃ q m, t.walk false links here names = .ok (q, m) := by
  induction h with
  | nil hat => exact ⟨_, _, walk_nil hat⟩
  | dot hat hdot _ ih => rwa [walk_of_dot hat hdot]
  | up hat _ ih => rwa [walk_of_up hat]
  | entry hat hplain hfits hn hlink _ ih => rwa [walk_of_lookup hat hplain hfits hn hlink]
  | @link links here rest place entries name target hat hplain hfits hn _ ih =>
    by_cases hlast : (rest.isEmpty && !false) = true
    · exact ⟨_, _, walk_of_last_link hat hplain hfits hn hlast⟩
    · rwa [walk_of_link hat hplain hfits hn hlast]

theorem isLink?_of_walk {m : Node} (h : t.walk false maxLinks (t.start p) p.names = .ok (place, m)) :
    t.isLink? p = .ok m.isLink := by
  unfold isLink? findLink
  rw [h]
  rfl

/-- A path that leads to a file or directory has its size. -/
theorem result_sizeAt_of_reaches (ht : t.Grounded) (h : t.Reaches p place n)
    (hreal : n.isLink = false) : (t.sizeAt p).result = .ok n.size := by
  obtain ⟨links, hwalk, hlimit⟩ := h
  obtain ⟨hgoes, hat⟩ := goes_of_walk hwalk
  obtain ⟨hresolve, hplace⟩ := resolve_of_goes ht true hgoes
  by_cases hislink : t.isLink? p = .ok true
  · have hsettle : t.settle p = .ok ⟨.top, place⟩ := by
      rw [settle, hislink]
      exact hresolve
    exact result_sizeAt hsettle (find_place hplace hat hreal)
  · -- The path is no link, so its way is short enough to be walked.
    have hfew : links ≤ maxLinks := hlimit.resolve_right hislink
    obtain ⟨q, m, hlast⟩ := (hgoes.mono hfew).walk_last
    have hnot : t.isLink? p = .ok false := by
      have hanswer := isLink?_of_walk hlast
      cases hm : m.isLink with
      | true =>
        rw [hm] at hanswer
        exact absurd hanswer hislink
      | false => rwa [hm] at hanswer
    have hsettle : t.settle p = .ok p := by rw [settle, hnot]
    obtain ⟨n', hfound⟩ := (hgoes.mono hfew).walk_eq_ok
    obtain rfl : n' = n := Option.some.inj ((goes_of_walk hfound).2.symm.trans hat)
    have hfind : t.find p = .ok n' := by
      unfold find locate
      rw [hfound]
      rfl
    exact result_sizeAt hsettle hfind

/-! ### Entries of a directory -/

theorem Goes.append {rest goal : List String} (h : Goes t links here names place)
    (hrest : Goes t 0 place rest goal) : Goes t links here (names ++ rest) goal := by
  induction h with
  | nil hat => exact hrest.mono (Nat.zero_le _)
  | dot hat hdot _ ih => exact .dot hat hdot (ih hrest)
  | up hat _ ih => exact .up hat (ih hrest)
  | entry hat hplain hfits hn hlink _ ih => exact .entry hat hplain hfits hn hlink (ih hrest)
  | link hat hplain hfits hn _ ih =>
    have hfurther := ih hrest
    rw [List.append_assoc] at hfurther
    exact .link hat hplain hfits hn hfurther

/-- One name further there is the entry of that name. -/
theorem reaches_child {entries : List (String × Node)}
    (h : t.locate p = .ok (place, .dir entries)) (hproper : EntriesProper entries)
    {e : String × Node} (he : e ∈ entries) (hreal : e.2.isLink = false) :
    t.Reaches (p.child e.1) (place ++ [e.1]) e.2 := by
  obtain ⟨hgoes, hat⟩ := goes_of_walk h
  obtain ⟨⟨hplain, hfits⟩, -⟩ := hproper.of_mem he
  have hlookup : entries.lookup e.1 = some e.2 := hproper.lookup he
  have hthere : t.top.at? (place ++ [e.1]) = some e.2 := at?_concat hat hlookup
  have hstep : Goes t 0 place [e.1] (place ++ [e.1]) :=
    .entry hat hplain hfits hlookup hreal (.nil hthere)
  obtain ⟨n, hwalk⟩ := (hgoes.append hstep).walk_eq_ok
  obtain rfl : n = e.2 := Option.some.inj ((goes_of_walk hwalk).2.symm.trans hthere)
  exact ⟨maxLinks, hwalk, .inl (Nat.le_refl _)⟩

/-- The sizes of the entries of a directory, links apart, are found along any path to it. -/
theorem sizes_of_entries (ht : t.Sound) {entries : List (String × Node)}
    (h : t.locate p = .ok (place, .dir entries)) :
    List.Forall₂ (fun e size => (t.sizeAt (p.child e.1)).result = .ok size)
      (entries.filter fun e => !e.2.isLink)
      ((entries.filter fun e => !e.2.isLink).map fun e => e.2.size) := by
  have hproper : (Node.dir entries).Proper := ht.proper.at? (goes_of_walk h).2
  rw [List.forall₂_map_right_iff, List.forall₂_same]
  intro e he
  obtain ⟨hmem, hnot⟩ := List.mem_filter.mp he
  have hreal : e.2.isLink = false := by simpa using hnot
  exact result_sizeAt_of_reaches ht.grounded (reaches_child h hproper hmem hreal) hreal

/-! ### Other links -/

/-- On the way from a directory along some names a link is followed. -/
inductive Passes (t : FileTree) : List String → List String → List String → Prop
  | dot {here rest link : List String} {name : String} (hdot : name = "." ∨ name = "")
    (hrest : Passes t here rest link) : Passes t here (name :: rest) link
  | up {here rest link : List String} (hrest : Passes t here.dropLast rest link) :
    Passes t here (".." :: rest) link
  | entry {here rest link : List String} {name : String} {n : Node}
    (hplain : IsPlain name) (hat : t.top.at? (here ++ [name]) = some n) (hreal : n.isLink = false)
    (hrest : Passes t (here ++ [name]) rest link) : Passes t here (name :: rest) link
  | here {here rest : List String} {name target : String} (hplain : IsPlain name)
    (hat : t.top.at? (here ++ [name]) = some (.link target)) :
    Passes t here (name :: rest) (here ++ [name])
  | link {here rest link : List String} {name target : String} (hplain : IsPlain name)
    (hat : t.top.at? (here ++ [name]) = some (.link target))
    (hrest : Passes t (if target.startsWith "/" then [] else here) (targetNames target ++ rest)
      link) : Passes t here (name :: rest) link

/-- A plain name passes a link if it is one, or by what comes behind it. -/
theorem passes_cons_iff {name : String} {rest link : List String} (hplain : IsPlain name) :
    t.Passes here (name :: rest) link ↔
      ∃ n, t.top.at? (here ++ [name]) = some n ∧
        ((n.isLink = false ∧ t.Passes (here ++ [name]) rest link) ∨
          ∃ target, n = .link target ∧ (link = here ++ [name] ∨
            t.Passes (if target.startsWith "/" then [] else here) (targetNames target ++ rest)
              link)) := by
  constructor
  · intro h
    generalize hnames : name :: rest = names at h
    cases h with
    | dot hdot =>
      obtain ⟨rfl, rfl⟩ := List.cons.inj hnames
      exact absurd hdot hplain.1
    | up => exact absurd (List.cons.inj hnames).1 hplain.2
    | entry _ hat hreal hrest =>
      obtain ⟨rfl, rfl⟩ := List.cons.inj hnames
      exact ⟨_, hat, .inl ⟨hreal, hrest⟩⟩
    | here _ hat =>
      obtain ⟨rfl, rfl⟩ := List.cons.inj hnames
      exact ⟨_, hat, .inr ⟨_, rfl, .inl rfl⟩⟩
    | link _ hat hrest =>
      obtain ⟨rfl, rfl⟩ := List.cons.inj hnames
      exact ⟨_, hat, .inr ⟨_, rfl, .inr hrest⟩⟩
  · rintro ⟨n, hat, ⟨hreal, hrest⟩ | ⟨target, rfl, rfl | hrest⟩⟩
    · exact .entry hplain hat hreal hrest
    · exact .here hplain hat
    · exact .link hplain hat hrest

/-- What lies in a directory is looked up there. -/
theorem lookup_of_at? {entries : List (String × Node)} {name : String}
    (hat : t.top.at? here = some (.dir entries)) (hn : t.top.at? (here ++ [name]) = some n) :
    entries.lookup name = some n := by
  rw [at?_append, hat] at hn
  change (entries.lookup name).bind _ = _ at hn
  obtain ⟨child, hchild, hsame⟩ := Option.bind_eq_some_iff.mp hn
  obtain rfl : child = n := Option.some.inj hsame
  exact hchild

/-- Above a directory there is no link. -/
theorem real_above {entries : List (String × Node)} {above : List String}
    (hat : t.top.at? here = some (.dir entries)) (habove : above <+: here) :
    ∃ m, t.top.at? above = some m ∧ m.isLink = false := by
  obtain ⟨rest, rfl⟩ := habove
  obtain ⟨entries', hdir⟩ := at?_of_prefix hat
  exact ⟨_, hdir, rfl⟩

/-- In a tree with the same files a walk comes to the same place, if the links on its way are the
same. -/
theorem walk_of_sameFiles (hsame : t.top.SameFiles t'.top) {followLast : Bool}
    (hhere : ∃ m, t.top.at? here = some m ∧ m.isLink = false)
    (hlinks : ∀ link, t.Passes here names link → t'.top.at? link = t.top.at? link)
    (h : t.walk followLast links here names = .ok (place, n)) :
    ∃ n', t'.walk followLast links here names = .ok (place, n') ∧ n'.isLink = n.isLink := by
  fun_induction t.walk followLast links here names with
  | case1 links here m hat =>
    obtain ⟨rfl, rfl⟩ := Prod.mk.inj (Except.ok.inj h)
    obtain ⟨m', hm', hreal⟩ := hhere
    obtain rfl : m' = m := Option.some.inj (hm'.symm.trans hat)
    obtain ⟨n', hn', hseen, -⟩ := hsame.at? hat hreal
    obtain ⟨x, hx⟩ := seen_eq_some_of_real hreal
    exact ⟨n', walk_nil hn', by rw [hreal, isLink_of_seen (hseen.trans hx)]⟩
  | case2 | case5 | case6 | case8 | case11 | case12 => cases h
  | case3 links here name names entries hat hdot ih =>
    obtain ⟨entries', hat', -⟩ := hsame.dir hat
    rw [walk_of_dot hat' hdot]
    exact ih hhere (fun link hpass => hlinks link (.dot hdot hpass)) h
  | case4 links here names entries hat hdot ih =>
    obtain ⟨entries', hat', -⟩ := hsame.dir hat
    rw [walk_of_up hat']
    exact ih (real_above hat (List.dropLast_prefix here)) (fun link hpass => hlinks link (.up hpass)) h
  | case7 links here name names entries hat hdot hup hfit target hlookup hlast =>
    obtain ⟨entries', hat', -⟩ := hsame.dir hat
    obtain ⟨rfl, rfl⟩ := Prod.mk.inj (Except.ok.inj h)
    have hthere : t.top.at? (here ++ [name]) = some (.link target) := at?_concat hat hlookup
    have hthere' := (hlinks _ (.here ⟨hdot, hup⟩ hthere)).trans hthere
    exact ⟨_, walk_of_last_link hat' ⟨hdot, hup⟩ (Nat.not_lt.mp hfit) (lookup_of_at? hat' hthere')
      hlast, rfl⟩
  | case9 here name names entries hat hdot hup hfit target hlookup hlast more start ih =>
    obtain ⟨entries', hat', -⟩ := hsame.dir hat
    have hthere : t.top.at? (here ++ [name]) = some (.link target) := at?_concat hat hlookup
    have hthere' := (hlinks _ (.here ⟨hdot, hup⟩ hthere)).trans hthere
    rw [walk_of_link hat' ⟨hdot, hup⟩ (Nat.not_lt.mp hfit) (lookup_of_at? hat' hthere') hlast]
    have hstart : start <+: here := by
      change (if target.startsWith "/" then [] else here) <+: here
      split
      · exact List.nil_prefix
      · exact List.prefix_refl here
    exact ih (real_above hat hstart) (fun link hpass => hlinks link (.link ⟨hdot, hup⟩ hthere hpass)) h
  | case10 links here name names entries hat hdot hup hfit m hnoLink hlookup ih =>
    obtain ⟨entries', hat', -⟩ := hsame.dir hat
    have hreal : m.isLink = false := isLink_eq_false hnoLink
    have hthere : t.top.at? (here ++ [name]) = some m := at?_concat hat hlookup
    obtain ⟨m', hthere', hseen, -⟩ := hsame.at? hthere hreal
    obtain ⟨x, hx⟩ := seen_eq_some_of_real hreal
    rw [walk_of_lookup hat' ⟨hdot, hup⟩ (Nat.not_lt.mp hfit) (lookup_of_at? hat' hthere')
      (isLink_of_seen (hseen.trans hx))]
    exact ih ⟨m, hthere, hreal⟩
      (fun link hpass => hlinks link (.entry ⟨hdot, hup⟩ hthere hreal hpass)) h

/-- In a tree with the same files a path leads to the same place, if the links on its way are the
same. -/
theorem reaches_of_sameFiles (ht : t.Grounded) (hsame : t.top.SameFiles t'.top)
    (hhere : t'.here = t.here)
    (hlinks : ∀ link, t.Passes (t.start p) p.names link → t'.top.at? link = t.top.at? link)
    (h : t.Reaches p place n) : ∃ n', t'.Reaches p place n' := by
  obtain ⟨links, hwalk, hlimit⟩ := h
  have hstart : t'.start p = t.start p := by
    unfold start
    rw [hhere]
  have hreal : ∃ m, t.top.at? (t.start p) = some m ∧ m.isLink = false := by
    obtain ⟨entries, hdir⟩ := ht.dir
    refine real_above hdir ?_
    unfold start
    split
    · exact List.nil_prefix
    · exact List.prefix_refl t.here
  obtain ⟨n', hwalk', -⟩ := walk_of_sameFiles hsame hreal hlinks hwalk
  refine ⟨n', links, hstart ▸ hwalk', hlimit.imp_right fun hislink => ?_⟩
  obtain ⟨q, m, hlast, hm⟩ := walk_of_isLink? hislink
  obtain ⟨m', hlast', hm'⟩ := walk_of_sameFiles hsame hreal hlinks hlast
  rw [← hstart] at hlast'
  rw [isLink?_of_walk hlast', hm', hm]

/-! ### Directories -/

/-- **The size of a directory.** A path that leads to a directory has the size of all files below
it, each counted once; it is found for any finite tree and whatever links there are. The directory
itself, without the links of the path, has the same size, and so do its own entries together,
links apart. In a tree with the same files the path still has this size, if the links that it
passes are the same: it does not matter which other links there are, nor in which order directories
list their entries. -/
theorem directory_size (ht : t.Sound) {entries : List (String × Node)}
    (h : t.Reaches p place (.dir entries)) :
    ∃ total, (t.sizeAt p).result = .ok total ∧
      (∃ files : List (List String × Content), (files.map Prod.fst).Nodup ∧
        (∀ names c, (names, c) ∈ files ↔ t.top.at? (place ++ names) = some (.file c)) ∧
        total = (files.map fun f => f.2.size).sum) ∧
      (t.locate ⟨.top, place⟩ = .ok (place, .dir entries) ∧
        (t.sizeAt ⟨.top, place⟩).result = .ok total) ∧
      (∀ d, t.locate d = .ok (place, .dir entries) → ∃ sizes : List Nat,
        List.Forall₂ (fun e size => (t.sizeAt (d.child e.1)).result = .ok size)
          (entries.filter fun e => !e.2.isLink) sizes ∧ total = sizes.sum) ∧
      ∀ t' : FileTree, t'.top.Proper → t'.here = t.here → t.top.SameFiles t'.top →
        (∀ link, t.Passes (t.start p) p.names link → t'.top.at? link = t.top.at? link) →
        (t'.sizeAt p).result = .ok total := by
  obtain ⟨links, hwalk, -⟩ := id h
  obtain ⟨hgoes, hat⟩ := goes_of_walk hwalk
  have hproper : (Node.dir entries).Proper := ht.proper.at? hat
  refine ⟨(Node.dir entries).size, result_sizeAt_of_reaches ht.grounded h rfl, ?_, ?_, ?_, ?_⟩
  · refine ⟨(Node.dir entries).files, nodup_files hproper, fun names c => ?_, size_eq_sum _⟩
    rw [mem_files_iff hproper, at?_append, hat]
    rfl
  · have hplace : IsPlace place := (resolve_of_goes ht.grounded true hgoes).2
    have hlocate : t.locate ⟨.top, place⟩ = .ok (place, .dir entries) :=
      locate_place hplace hat rfl
    have hitself : t.Reaches ⟨.top, place⟩ place (.dir entries) :=
      ⟨maxLinks, hlocate, .inl (Nat.le_refl _)⟩
    exact ⟨hlocate, result_sizeAt_of_reaches ht.grounded hitself rfl⟩
  · intro d hd
    exact ⟨_, sizes_of_entries ht hd, entriesSize_eq_sum_entries entries⟩
  · intro t' hproper' hhere hsame hlinks
    obtain ⟨n', h'⟩ := reaches_of_sameFiles ht.grounded hsame hhere hlinks h
    obtain ⟨links', hwalk', -⟩ := id h'
    obtain ⟨entries', hdir', hbelow⟩ := hsame.dir hat
    obtain rfl : n' = .dir entries' :=
      Option.some.inj ((goes_of_walk hwalk').2.symm.trans hdir')
    have hground : t'.Grounded := by
      obtain ⟨entries₀, hdir₀⟩ := ht.grounded.dir
      obtain ⟨entries₁, hdir₁, -⟩ := hsame.dir hdir₀
      refine ⟨?_, entries₁, ?_⟩
      · rw [hhere]
        exact ht.grounded.isPlace
      · rw [hhere]
        exact hdir₁
    have hsize : (Node.dir entries').size = (Node.dir entries).size :=
      (hbelow.size_eq hproper (hproper'.at? hdir')).symm
    rw [← hsize]
    exact result_sizeAt_of_reaches hground h' rfl

/-! ### Two trees -/

/-- A file in a subdirectory, next to a link that leads back up. -/
def loopedPart : List (String × Node) := [("up", .link ".."), ("b", .file (.zeros 5))]

/-- The same file, next to another link. -/
def relinkedPart : List (String × Node) := [("b", .file (.zeros 5)), ("c", .link "/p")]

/-- A directory with a link into nowhere, and a link to the directory. -/
def loopedTree : FileTree where
  top := .dir [
    ("d", .dir [("a", .file (.zeros 3)), ("l", .link "nowhere"), ("s", .dir loopedPart)]),
    ("p", .link "d")]
  here := []

/-- The same directory with other links, and listed in another order. -/
def relinkedTree : FileTree where
  top := .dir [("p", .link "d"),
    ("d", .dir [("s", .dir relinkedPart), ("a", .file (.zeros 3))])]
  here := []

theorem sound_loopedTree : loopedTree.Sound where
  grounded := ⟨isPlace_nil, _, rfl⟩
  proper := by
    simp only [loopedTree, loopedPart, Proper, EntriesProper, and_true]
    decide

theorem proper_relinkedTree : relinkedTree.top.Proper := by
  simp only [relinkedTree, relinkedPart, Proper, EntriesProper, and_true]
  decide

theorem reaches_loopedTree : loopedTree.Reaches ⟨.top, ["p"]⟩ ["d"]
    (.dir [("a", .file (.zeros 3)), ("l", .link "nowhere"), ("s", .dir loopedPart)]) := by
  have htop : loopedTree.top.at? [] = some loopedTree.top := rfl
  have hp : IsPlain "p" ∧ PinLedger.Fits "p" := by decide
  have hd : IsPlain "d" ∧ PinLedger.Fits "d" := by decide
  have htarget : targetNames "d" ++ [] = ["d"] := by decide +kernel
  have hlink : loopedTree.walk true 1 [] ["p"] = loopedTree.walk true 0 [] ["d"] := by
    have hstep : loopedTree.walk true (0 + 1) [] ["p"] = loopedTree.walk true 0
        (if "d".startsWith "/" then [] else []) (targetNames "d" ++ []) :=
      walk_of_link htop hp.1 hp.2 rfl (by simp)
    rw [hstep, ite_self, htarget]
  have hdown : loopedTree.walk true 0 [] ["d"] = loopedTree.walk true 0 ["d"] [] :=
    walk_of_lookup htop hd.1 hd.2 rfl rfl
  exact ⟨1, hlink.trans (hdown.trans (walk_nil rfl)), .inl (by decide)⟩

theorem sameFiles_relinkedTree : loopedTree.top.SameFiles relinkedTree.top := by
  have hpart : (Node.dir loopedPart).SameFiles (.dir relinkedPart) :=
    sameFiles_of_perm (by simp only [loopedPart, EntriesProper, Proper]; decide)
      (by simp only [relinkedPart, EntriesProper, Proper]; decide) (List.Perm.refl _)
  have hinner := sameFiles_of_entry hpart [("a", .file (.zeros 3)), ("l", .link "nowhere")] [] "s"
  have hlisted : (Node.dir [("a", .file (.zeros 3)), ("l", .link "nowhere"),
      ("s", .dir relinkedPart)]).SameFiles
        (.dir [("s", .dir relinkedPart), ("a", .file (.zeros 3))]) :=
    sameFiles_of_perm (by simp only [relinkedPart, EntriesProper, Proper]; decide)
      (by simp only [relinkedPart, EntriesProper, Proper]; decide) (List.Perm.swap _ _ _)
  have houter := sameFiles_of_entry (fun names => (hinner names).trans (hlisted names)) []
    [("p", .link "d")] "d"
  have hproper : EntriesProper [("d", .dir [("s", .dir relinkedPart), ("a", .file (.zeros 3))]),
      ("p", .link "d")] := by
    simp only [relinkedPart, EntriesProper, Proper]
    decide
  have htop := sameFiles_of_perm hproper proper_relinkedTree (List.Perm.refl _)
  exact fun names => (houter names).trans (htop names)

/-- The only link on the way is that to the directory. -/
theorem eq_of_passes_loopedTree {link : List String} (h : loopedTree.Passes [] ["p"] link) :
    link = ["p"] := by
  have hp : IsPlain "p" ∧ loopedTree.top.at? ["p"] = some (.link "d") := ⟨by decide, rfl⟩
  have hd : IsPlain "d" ∧ ∃ es, loopedTree.top.at? ["d"] = some (.dir es) := ⟨by decide, _, rfl⟩
  have htarget : targetNames "d" ++ [] = ["d"] := by decide +kernel
  obtain ⟨n, hat, hway⟩ := (passes_cons_iff hp.1).mp h
  obtain rfl : n = .link "d" := Option.some.inj (hat.symm.trans hp.2)
  rcases hway with ⟨hreal, -⟩ | ⟨target, heq, rfl | hrest⟩
  · cases hreal
  · rfl
  · obtain rfl := Node.link.inj heq
    rw [ite_self, htarget] at hrest
    obtain ⟨m, hat', hway'⟩ := (passes_cons_iff hd.1).mp hrest
    obtain ⟨es, hdir⟩ := hd.2
    obtain rfl : m = .dir es := Option.some.inj (hat'.symm.trans hdir)
    rcases hway' with ⟨-, hend⟩ | ⟨target, heq', -⟩
    · cases hend
    · cases heq'

/-- Through the link the directory has its size, with the links that it holds and with others. -/
theorem size_loopedTree :
    loopedTree.Sound ∧ (loopedTree.sizeAt ⟨.top, ["p"]⟩).result = .ok 8 ∧
      (relinkedTree.sizeAt ⟨.top, ["p"]⟩).result = .ok 8 := by
  obtain ⟨total, hsize, -, -, -, hother⟩ := directory_size sound_loopedTree reaches_loopedTree
  have height : (loopedTree.sizeAt ⟨.top, ["p"]⟩).result = .ok 8 :=
    result_sizeAt_of_reaches sound_loopedTree.grounded reaches_loopedTree rfl
  obtain rfl : total = 8 := Except.ok.inj (hsize.symm.trans height)
  have hlinks : ∀ link, loopedTree.Passes [] ["p"] link →
      relinkedTree.top.at? link = loopedTree.top.at? link := fun link hpass => by
    rw [eq_of_passes_loopedTree hpass]
    rfl
  exact ⟨sound_loopedTree, height,
    hother relinkedTree proper_relinkedTree rfl sameFiles_relinkedTree hlinks⟩

end PinLedger.FileTree

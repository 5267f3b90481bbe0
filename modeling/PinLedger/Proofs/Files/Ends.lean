/-
# Where the way along a path ends

A strict resolution follows the names of a path one by one, and resolves a link on its own before it
goes on. It comes to a place, or it stops at a name that cannot be followed; with links that lead
back to themselves it would do neither. What it reads off the text of the path it does not ask for:
`..` goes one step up even from a file.

A link that is met again while it is resolved has a way without an end: with an end, the second time
it would be as far from it as the first time. So a resolution says where the way ends if it has an
end (`Resolved.ended`, `Resolved.stopped`), and fails at a link without one otherwise.

Key definitions: `FileTree.Ends`, `FileTree.Unending`, `FileTree.Resolving`, `FileTree.Resolved`.
Key theorems: `FileTree.Ends.unique`, `FileTree.resolved`, `FileTree.resolve_strict`.
-/
import PinLedger.Proofs.Files.Resolution

namespace PinLedger.FileTree

variable {t : FileTree} {cost cost' more : Nat} {here mid rest names place : List String}
  {name target : String} {n m : Node} {reason : OsReason}
  {goal goal' : Except OsReason (List String)}

/-! ### One name -/

/-- In the directory at `here` there is an entry with the name. -/
def HasEntry (t : FileTree) (here : List String) (name : String) (n : Node) : Prop :=
  ∃ entries, t.top.at? here = some (.dir entries) ∧ PinLedger.Fits name ∧
    entries.lookup name = some n

/-- Why a name cannot be followed from `here`. -/
inductive Stops (t : FileTree) (here : List String) (name : String) : OsReason → Prop
  | notDirectory {n : Node} (hat : t.top.at? here = some n) (hdir : n.isDir = false) :
    Stops t here name .notDirectory
  | nameTooLong {entries : List (String × Node)} (hat : t.top.at? here = some (.dir entries))
    (hlong : ¬ PinLedger.Fits name) : Stops t here name .nameTooLong
  | missing {entries : List (String × Node)} (hat : t.top.at? here = some (.dir entries))
    (hfits : PinLedger.Fits name) (hn : entries.lookup name = none) : Stops t here name .missing

namespace HasEntry

theorem at? (h : HasEntry t here name n) : t.top.at? (here ++ [name]) = some n := by
  obtain ⟨entries, hat, -, hn⟩ := h
  exact Node.at?_concat hat hn

theorem unique (h : HasEntry t here name n) (h' : HasEntry t here name m) : n = m :=
  Option.some.inj (h.at?.symm.trans h'.at?)

theorem not_stops (h : HasEntry t here name n) : ¬ Stops t here name reason := by
  obtain ⟨entries, hat, hfits, hn⟩ := h
  intro hstop
  cases hstop with
  | notDirectory hat' hdir =>
    obtain rfl := Option.some.inj (hat.symm.trans hat')
    cases hdir
  | nameTooLong hat' hlong => exact hlong hfits
  | missing hat' _ hn' =>
    obtain rfl := Node.dir.inj (Option.some.inj (hat.symm.trans hat'))
    rw [hn] at hn'
    cases hn'

end HasEntry

theorem Stops.unique {reason' : OsReason} (h : Stops t here name reason)
    (h' : Stops t here name reason') : reason = reason' := by
  cases h with
  | notDirectory hat hdir =>
    cases h' with
    | notDirectory => rfl
    | nameTooLong hat' | missing hat' =>
      obtain rfl := Option.some.inj (hat.symm.trans hat')
      cases hdir
  | nameTooLong hat hlong =>
    cases h' with
    | notDirectory hat' hdir =>
      obtain rfl := Option.some.inj (hat.symm.trans hat')
      cases hdir
    | nameTooLong => rfl
    | missing _ hfits => exact absurd hfits hlong
  | missing hat hfits =>
    cases h' with
    | notDirectory hat' hdir =>
      obtain rfl := Option.some.inj (hat.symm.trans hat')
      cases hdir
    | nameTooLong _ hlong => exact absurd hfits hlong
    | missing => rfl

/-- At `here` there is something that can be asked for: a file or a directory. -/
def Real (t : FileTree) (here : List String) : Prop :=
  ∃ n, t.top.at? here = some n ∧ n.isLink = false

/-- Where there is a directory, the top is one. -/
theorem real_nil {entries : List (String × Node)} (hat : t.top.at? here = some (.dir entries)) :
    Real t [] := by
  rw [← List.nil_append here] at hat
  obtain ⟨above, htop⟩ := Node.at?_of_prefix hat
  exact ⟨_, htop, rfl⟩

/-- Above what is real there is a directory. -/
theorem real_dropLast (h : Real t here) : Real t here.dropLast := by
  obtain ⟨n, hat, hlink⟩ := h
  rcases List.eq_nil_or_concat here with rfl | ⟨front, last, rfl⟩
  · exact ⟨n, hat, hlink⟩
  · rw [List.concat_eq_append, List.dropLast_concat]
    rw [List.concat_eq_append, Node.at?_append] at hat
    obtain ⟨m, hm, hrest⟩ := Option.bind_eq_some_iff.mp hat
    obtain ⟨entries, -, rfl, -⟩ := Node.at?_cons_eq_some hrest
    exact ⟨_, hm, rfl⟩

/-- Asking for a name, the link at it not followed, finds the entry or fails. -/
theorem findLink_cases {p : Path} (ht : t.Grounded) (hp : LeadsTo t p here) (hreal : Real t here)
    (hplain : IsPlain name) :
    (∃ reason, t.findLink (p.child name) = .error reason ∧ Stops t here name reason) ∨
      ∃ n, t.findLink (p.child name) = .ok n ∧ HasEntry t here name n := by
  obtain ⟨n, hat, hlink⟩ := hreal
  have hask : t.findLink (p.child name) =
      (t.walk false maxLinks here [name]).map (·.2) := by
    unfold findLink
    exact congrArg (Except.map Prod.snd) (hp.walk ht hat hlink [name])
  cases n with
  | link target => cases hlink
  | file content =>
    refine .inl ⟨.notDirectory, ?_, .notDirectory hat rfl⟩
    rw [hask, walk, hat]
    rfl
  | dir entries =>
    by_cases hfits : PinLedger.Fits name
    · cases hn : entries.lookup name with
      | none =>
        refine .inl ⟨.missing, ?_, .missing hat hfits hn⟩
        rw [hask, walk_of_missing hat hplain hfits hn]
        rfl
      | some m => exact .inr ⟨m, findLink_child ht hp hat hplain hfits hn, entries, hat, hfits, hn⟩
    · refine .inl ⟨.nameTooLong, ?_, .nameTooLong hat hfits⟩
      rw [hask, walk_of_long hat hplain (Nat.not_le.mp hfits)]
      rfl

/-! ### Ways that have an end -/

/-- Where the target of a link is taken from. -/
def baseOf (here : List String) (target : String) : List String :=
  if target.startsWith "/" then [] else here

/-- From `here` the names lead to a place, or stop at a name that cannot be followed. On the way
`cost` links are resolved, those on the way of a link included. -/
inductive Ends (t : FileTree) : Nat → List String → List String → Except OsReason (List String) →
    Prop
  | nil {here : List String} : Ends t 0 here [] (.ok here)
  | dot {cost : Nat} {here rest : List String} {goal : Except OsReason (List String)}
    {name : String} (hdot : name = "" ∨ name = ".") (hrest : Ends t cost here rest goal) :
    Ends t cost here (name :: rest) goal
  | up {cost : Nat} {here rest : List String} {goal : Except OsReason (List String)}
    (hrest : Ends t cost here.dropLast rest goal) : Ends t cost here (".." :: rest) goal
  | stop {here rest : List String} {name : String} {reason : OsReason} (hplain : IsPlain name)
    (hstop : Stops t here name reason) : Ends t 0 here (name :: rest) (.error reason)
  | entry {cost : Nat} {here rest : List String} {goal : Except OsReason (List String)}
    {name : String} {n : Node} (hplain : IsPlain name) (hentry : HasEntry t here name n)
    (hreal : n.isLink = false) (hrest : Ends t cost (here ++ [name]) rest goal) :
    Ends t cost here (name :: rest) goal
  | lost {cost : Nat} {here rest : List String} {name target : String} {reason : OsReason}
    (hplain : IsPlain name) (hlink : HasEntry t here name (.link target))
    (htarget : Ends t cost (baseOf here target) (Text.split '/' target) (.error reason)) :
    Ends t (cost + 1) here (name :: rest) (.error reason)
  | link {cost more : Nat} {here mid rest : List String} {goal : Except OsReason (List String)}
    {name target : String} (hplain : IsPlain name) (hlink : HasEntry t here name (.link target))
    (htarget : Ends t cost (baseOf here target) (Text.split '/' target) (.ok mid))
    (hrest : Ends t more mid rest goal) : Ends t (cost + more + 1) here (name :: rest) goal

namespace Ends

theorem of_dot (hdot : name = "" ∨ name = ".") (h : Ends t cost here (name :: rest) goal) :
    Ends t cost here rest goal := by
  cases h with
  | dot _ hrest => exact hrest
  | up => exact absurd hdot (by decide)
  | stop hplain | entry hplain | lost hplain | link hplain => exact absurd hdot.symm hplain.1

theorem of_up (h : Ends t cost here (".." :: rest) goal) : Ends t cost here.dropLast rest goal := by
  cases h with
  | dot hdot => exact absurd hdot (by decide)
  | up hrest => exact hrest
  | stop hplain | entry hplain | lost hplain | link hplain => exact absurd rfl hplain.2

section Plain

variable (hplain : IsPlain name) (h : Ends t cost here (name :: rest) goal)

include hplain h

theorem of_stop (hstop : Stops t here name reason) : cost = 0 ∧ goal = .error reason := by
  cases h with
  | dot hdot => exact absurd hdot.symm hplain.1
  | up => exact absurd rfl hplain.2
  | stop _ hstop' => exact ⟨rfl, congrArg _ (hstop'.unique hstop)⟩
  | entry _ hentry | lost _ hentry | link _ hentry => exact absurd hstop hentry.not_stops

theorem of_entry (hentry : HasEntry t here name n) (hreal : n.isLink = false) :
    Ends t cost (here ++ [name]) rest goal := by
  cases h with
  | dot hdot => exact absurd hdot.symm hplain.1
  | up => exact absurd rfl hplain.2
  | stop _ hstop => exact absurd hstop hentry.not_stops
  | entry _ _ _ hrest => exact hrest
  | lost _ hlink | link _ hlink =>
    obtain rfl := hentry.unique hlink
    cases hreal

/-- A way that has an end resolves the links on it along ways that have one. -/
theorem of_link (hlink : HasEntry t here name (.link target)) :
    ∃ below goal', Ends t below (baseOf here target) (Text.split '/' target) goal' ∧
      match goal' with
      | .error reason => cost = below + 1 ∧ goal = .error reason
      | .ok mid => ∃ more, Ends t more mid rest goal ∧ cost = below + more + 1 := by
  cases h with
  | dot hdot => exact absurd hdot.symm hplain.1
  | up => exact absurd rfl hplain.2
  | stop _ hstop => exact absurd hstop hlink.not_stops
  | entry _ hentry hreal =>
    obtain rfl := hentry.unique hlink
    cases hreal
  | lost _ hlink' htarget =>
    obtain rfl := Node.link.inj (hlink'.unique hlink)
    exact ⟨_, _, htarget, rfl, rfl⟩
  | link _ hlink' htarget hrest =>
    obtain rfl := Node.link.inj (hlink'.unique hlink)
    exact ⟨_, _, htarget, _, hrest, rfl⟩

/-- The way of a link on it is shorter. -/
theorem target_of_link (hlink : HasEntry t here name (.link target)) :
    ∃ below goal', below < cost ∧
      Ends t below (baseOf here target) (Text.split '/' target) goal' := by
  obtain ⟨below, goal', htarget, hrest⟩ := h.of_link hplain hlink
  refine ⟨below, goal', ?_, htarget⟩
  cases goal' with
  | error reason =>
    rw [hrest.1]
    exact Nat.lt_succ_self below
  | ok mid =>
    obtain ⟨more, -, rfl⟩ := hrest
    omega

end Plain

/-- A way has one end, at one distance. -/
theorem unique (h : Ends t cost here names goal) (h' : Ends t cost' here names goal') :
    cost = cost' ∧ goal = goal' := by
  induction h generalizing cost' goal' with
  | nil =>
    cases h'
    exact ⟨rfl, rfl⟩
  | dot hdot _ ih => exact ih (h'.of_dot hdot)
  | up _ ih => exact ih h'.of_up
  | stop hplain hstop =>
    obtain ⟨rfl, rfl⟩ := h'.of_stop hplain hstop
    exact ⟨rfl, rfl⟩
  | entry hplain hentry hreal _ ih => exact ih (h'.of_entry hplain hentry hreal)
  | lost hplain hlink _ ih =>
    obtain ⟨below, goal'', htarget, hrest⟩ := h'.of_link hplain hlink
    obtain ⟨rfl, rfl⟩ := ih htarget
    obtain ⟨rfl, rfl⟩ := hrest
    exact ⟨rfl, rfl⟩
  | link hplain hlink _ _ ihTarget ihRest =>
    obtain ⟨below, goal'', htarget, hrest⟩ := h'.of_link hplain hlink
    obtain ⟨rfl, rfl⟩ := ihTarget htarget
    obtain ⟨more, hrest, rfl⟩ := hrest
    obtain ⟨rfl, rfl⟩ := ihRest hrest
    exact ⟨rfl, rfl⟩

end Ends

/-- However far a path is followed, it comes to no end. -/
def Unending (t : FileTree) (p : Path) : Prop :=
  ∀ cost goal, ¬ Ends t cost (t.start p) p.names goal

/-- What a way stops at is no loop of links. -/
theorem Stops.ne_linkLoop (h : Stops t here name reason) : reason ≠ .linkLoop := by
  cases h <;> decide

theorem Ends.ne_linkLoop (h : Ends t cost here names (.error reason)) : reason ≠ .linkLoop := by
  generalize hgoal : (Except.error reason : Except OsReason (List String)) = goal at h
  induction h with
  | nil => cases hgoal
  | dot _ _ ih | up _ ih | entry _ _ _ _ ih => exact ih hgoal
  | stop _ hstop =>
    cases hgoal
    exact hstop.ne_linkLoop
  | lost _ _ _ ih => exact ih hgoal
  | link _ _ _ _ _ ih => exact ih hgoal

/-! ### What a strict resolution ends in -/

/-- A way has an end. So do the ways of the links that are being resolved, which are all different,
and none of these ways is shorter. -/
def Bounded (t : FileTree) (pending : List Path) (here names : List String) : Prop :=
  ∃ cost goal, Ends t cost here names goal ∧ (pending.map t.placeOf).Nodup ∧
    ∀ q ∈ pending, ∃ above name target below goal', t.placeOf q = above ++ [name] ∧
      HasEntry t above name (.link target) ∧ cost ≤ below ∧
      Ends t below (baseOf above target) (Text.split '/' target) goal'

namespace Bounded

variable {pending : List Path} {here' names' : List String}

/-- The way that is left may be replaced by one that is not longer. -/
theorem of_le (h : Bounded t pending here names) (hends : ∀ cost goal, Ends t cost here names goal →
    ∃ less goal', less ≤ cost ∧ Ends t less here' names' goal') :
    Bounded t pending here' names' := by
  obtain ⟨cost, goal, hcost, hnodup, hpending⟩ := h
  obtain ⟨less, goal', hle, hless⟩ := hends cost goal hcost
  refine ⟨less, goal', hless, hnodup, fun q hq => ?_⟩
  obtain ⟨above, name, target, below, goal'', hplace, hlink, hbelow, htarget⟩ := hpending q hq
  exact ⟨above, name, target, below, goal'', hplace, hlink, Nat.le_trans hle hbelow, htarget⟩

/-- There are no more links to resolve than links in the tree. -/
theorem length_le (h : Bounded t pending here names) : pending.length ≤ countLinks t.top := by
  obtain ⟨cost, goal, -, hnodup, hpending⟩ := h
  have hle := length_le_countLinks hnodup fun place hplace => by
    obtain ⟨q, hq, rfl⟩ := List.mem_map.mp hplace
    obtain ⟨above, name, target, -, -, hplace, hlink, -⟩ := hpending q hq
    exact ⟨target, hplace ▸ hlink.at?⟩
  rwa [List.length_map] at hle

variable (hplain : IsPlain name) (hlink : HasEntry t here name (.link target))
  (h : Bounded t pending here (name :: rest))

include hplain hlink h

/-- A link on the way is none of those that are being resolved: its own way is too short. -/
theorem placeOf_ne {q : Path} (hq : q ∈ pending) : t.placeOf q ≠ here ++ [name] := by
  obtain ⟨cost, goal, hends, -, hpending⟩ := h
  intro heq
  obtain ⟨above, name', target', below, goal', hplace, hlink', hle, htarget⟩ := hpending q hq
  obtain ⟨rfl, hname⟩ := List.append_inj' (heq.symm.trans hplace) rfl
  obtain rfl := List.head_eq_of_cons_eq hname
  obtain rfl := Node.link.inj (hlink.unique hlink')
  obtain ⟨below', goal'', hlt, htarget'⟩ := hends.target_of_link hplain hlink
  obtain ⟨rfl, -⟩ := htarget.unique htarget'
  exact absurd hlt (Nat.not_lt.mpr hle)

/-- So it can be resolved along with them. -/
theorem below {q : Path} (hq : t.placeOf q = here ++ [name]) :
    Bounded t (q :: pending) (baseOf here target) (Text.split '/' target) := by
  have hfresh : t.placeOf q ∉ pending.map t.placeOf := fun hmem => by
    obtain ⟨q', hq', hplace⟩ := List.mem_map.mp hmem
    exact h.placeOf_ne hplain hlink hq' (hplace.trans hq)
  obtain ⟨cost, goal, hends, hnodup, hpending⟩ := h
  obtain ⟨below, goal', hlt, htarget⟩ := hends.target_of_link hplain hlink
  refine ⟨below, goal', htarget, List.nodup_cons.mpr ⟨hfresh, hnodup⟩, ?_⟩
  refine List.forall_mem_cons.mpr ⟨⟨here, name, target, below, goal', hq, hlink, le_rfl, htarget⟩,
    fun q' hq' => ?_⟩
  obtain ⟨above, name', target', below', goal'', hplace, hlink', hle, htarget'⟩ := hpending q' hq'
  exact ⟨above, name', target', below', goal'', hplace, hlink',
    Nat.le_trans (Nat.le_of_lt hlt) hle, htarget'⟩

end Bounded

/-- A resolution goes on from `p`, which leads to `here`: the depth allows for all links of the
tree, and if the whole way has an end, what is left of it is bounded. -/
structure Resolving (t : FileTree) (whole : Prop) (depth : Nat) (pending : List Path) (p : Path)
    (here names : List String) : Prop where
  leads : LeadsTo t p here
  real : Real t here
  deep : countLinks t.top < depth + pending.length
  bounded : whole → Bounded t pending here names

/-- What following names from `here` ends in: the end of the way, or a link on a way that has
none. -/
inductive Resolved (t : FileTree) (whole : Prop) (here names : List String) :
    Except OsFault (Path × Bool) → Prop
  | ended {q : Path} {cost : Nat} {place : List String} (hends : Ends t cost here names (.ok place))
    (hleads : LeadsTo t q place) (hreal : Real t place) : Resolved t whole here names (.ok (q, true))
  | stopped {cost : Nat} {reason : OsReason} {text : String}
    (hends : Ends t cost here names (.error reason)) :
    Resolved t whole here names (.error ⟨reason, text⟩)
  | circles {q : Path} (hwhole : ¬ whole) (hlink : ∃ target, t.findLink q = .ok (.link target)) :
    Resolved t whole here names (.error ⟨t.loopReason q, q.text⟩)

section Steps

variable {whole : Prop} {depth : Nat} {pending : List Path} {p q : Path}
  {result : Except OsFault (Path × Bool)}

namespace Resolving

theorem dot (h : Resolving t whole depth pending p here (name :: rest))
    (hdot : name = "" ∨ name = ".") : Resolving t whole depth pending p here rest where
  leads := h.leads
  real := h.real
  deep := h.deep
  bounded hwhole := (h.bounded hwhole).of_le fun _ _ hends => ⟨_, _, le_rfl, hends.of_dot hdot⟩

theorem up (h : Resolving t whole depth pending p here (".." :: rest)) :
    Resolving t whole depth pending (stepUp p) here.dropLast rest where
  leads := h.leads.stepUp
  real := real_dropLast h.real
  deep := h.deep
  bounded hwhole := (h.bounded hwhole).of_le fun _ _ hends => ⟨_, _, le_rfl, hends.of_up⟩

theorem leads_child (h : Resolving t whole depth pending p here (name :: rest))
    (hplain : IsPlain name) (hentry : HasEntry t here name n) :
    LeadsTo t (p.child name) (here ++ [name]) := by
  obtain ⟨entries, -, hfits, -⟩ := hentry
  exact h.leads.child hplain hfits

theorem entry (h : Resolving t whole depth pending p here (name :: rest)) (hplain : IsPlain name)
    (hentry : HasEntry t here name n) (hreal : n.isLink = false) :
    Resolving t whole depth pending (p.child name) (here ++ [name]) rest where
  leads := h.leads_child hplain hentry
  real := ⟨n, hentry.at?, hreal⟩
  deep := h.deep
  bounded hwhole := (h.bounded hwhole).of_le fun _ _ hends =>
    ⟨_, _, le_rfl, hends.of_entry hplain hentry hreal⟩

/-- Before the names that are left, a link is resolved on its own. -/
theorem below (ht : t.Grounded) (h : Resolving t whole (depth + 1) pending p here (name :: rest))
    (hplain : IsPlain name) (hlink : HasEntry t here name (.link target)) :
    Resolving t whole depth (p.child name :: pending)
      (if target.startsWith "/" then ⟨.top, []⟩ else p) (baseOf here target)
      (Text.split '/' target) where
  leads := by
    unfold baseOf
    split
    · exact .top isPlace_nil
    · exact h.leads
  real := by
    unfold baseOf
    split
    · obtain ⟨entries, hat, -⟩ := hlink
      exact real_nil hat
    · exact h.real
  deep := by
    have hdeep := h.deep
    rw [List.length_cons]
    omega
  bounded hwhole := (h.bounded hwhole).below hplain hlink
    ((h.leads_child hplain hlink).placeOf_eq ht)

/-- Then the names that are left are followed from where it leads. -/
theorem behind (h : Resolving t whole depth pending p here (name :: rest)) (hplain : IsPlain name)
    (hlink : HasEntry t here name (.link target)) (hleads : LeadsTo t q mid) (hreal : Real t mid)
    (htarget : Ends t cost (baseOf here target) (Text.split '/' target) (.ok mid)) :
    Resolving t whole depth pending q mid rest where
  leads := hleads
  real := hreal
  deep := h.deep
  bounded hwhole := by
    refine (h.bounded hwhole).of_le fun far goal hends => ?_
    obtain ⟨below, goal', htarget', hrest⟩ := hends.of_link hplain hlink
    obtain ⟨rfl, rfl⟩ := htarget.unique htarget'
    obtain ⟨more, hrest, rfl⟩ := hrest
    exact ⟨more, goal, by omega, hrest⟩

/-- A link that is met again while it is resolved lies on a way without an end. -/
theorem not_whole_of_mem (ht : t.Grounded)
    (h : Resolving t whole depth pending p here (name :: rest)) (hplain : IsPlain name)
    (hlink : HasEntry t here name (.link target)) (hmem : p.child name ∈ pending) : ¬ whole :=
  fun hwhole => (h.bounded hwhole).placeOf_ne hplain hlink hmem
    ((h.leads_child hplain hlink).placeOf_eq ht)

/-- The depth is not used up on a way that has an end. -/
theorem not_whole_of_depth (h : Resolving t whole 0 pending p here names) : ¬ whole :=
    fun hwhole => by
  have hle := (h.bounded hwhole).length_le
  have hdeep := h.deep
  omega

/-- What was found when a name was asked for is the entry with the name. -/
theorem hasEntry (ht : t.Grounded) (h : Resolving t whole depth pending p here (name :: rest))
    (hplain : IsPlain name) (hfound : t.findLink (p.child name) = .ok n) :
    HasEntry t here name n := by
  rcases findLink_cases ht h.leads h.real hplain with ⟨reason, herror, -⟩ | ⟨m, hm, hentry⟩
  · rw [hfound] at herror
    cases herror
  · rw [hfound] at hm
    rwa [Except.ok.inj hm]

theorem stops (ht : t.Grounded) (h : Resolving t whole depth pending p here (name :: rest))
    (hplain : IsPlain name) (hfailed : t.findLink (p.child name) = .error reason) :
    Stops t here name reason := by
  rcases findLink_cases ht h.leads h.real hplain with ⟨reason', herror, hstop⟩ | ⟨m, hm, -⟩
  · rw [hfailed] at herror
    rwa [Except.error.inj herror]
  · rw [hfailed] at hm
    cases hm

end Resolving

namespace Resolved

theorem dot (hdot : name = "" ∨ name = ".") (h : Resolved t whole here rest result) :
    Resolved t whole here (name :: rest) result := by
  cases h with
  | ended hends hleads hreal => exact .ended (.dot hdot hends) hleads hreal
  | stopped hends => exact .stopped (.dot hdot hends)
  | circles hwhole hlink => exact .circles hwhole hlink

theorem up (h : Resolved t whole here.dropLast rest result) :
    Resolved t whole here (".." :: rest) result := by
  cases h with
  | ended hends hleads hreal => exact .ended (.up hends) hleads hreal
  | stopped hends => exact .stopped (.up hends)
  | circles hwhole hlink => exact .circles hwhole hlink

theorem entry (hplain : IsPlain name) (hentry : HasEntry t here name n) (hreal : n.isLink = false)
    (h : Resolved t whole (here ++ [name]) rest result) :
    Resolved t whole here (name :: rest) result := by
  cases h with
  | ended hends hleads hend => exact .ended (.entry hplain hentry hreal hends) hleads hend
  | stopped hends => exact .stopped (.entry hplain hentry hreal hends)
  | circles hwhole hlink => exact .circles hwhole hlink

/-- What resolving a link fails with. -/
theorem lost {fault : OsFault} (hplain : IsPlain name) (hlink : HasEntry t here name (.link target))
    (h : Resolved t whole (baseOf here target) (Text.split '/' target) (.error fault)) :
    Resolved t whole here (name :: rest) (.error fault) := by
  cases h with
  | stopped hends => exact .stopped (.lost hplain hlink hends)
  | circles hwhole hlink => exact .circles hwhole hlink

theorem link (hplain : IsPlain name) (hlink : HasEntry t here name (.link target))
    (htarget : Ends t cost (baseOf here target) (Text.split '/' target) (.ok mid))
    (h : Resolved t whole mid rest result) : Resolved t whole here (name :: rest) result := by
  cases h with
  | ended hends hleads hreal => exact .ended (.link hplain hlink htarget hends) hleads hreal
  | stopped hends => exact .stopped (.link hplain hlink htarget hends)
  | circles hwhole hlink => exact .circles hwhole hlink

end Resolved

/-- **A strict resolution comes to the end of the way, or the way has none.** -/
theorem resolved (ht : t.Grounded) (h : Resolving t whole depth pending p here names) :
    Resolved t whole here names (t.resolveNames true depth pending p names) := by
  fun_induction t.resolveNames true depth pending p names generalizing here
  case case1 => exact .ended .nil h.leads h.real
  case case2 depth pending p name rest hdot ih => exact (ih (h.dot hdot)).dot hdot
  case case3 depth pending p rest hdot ih => exact (ih h.up).up
  case case4 depth pending p name rest hdot hup next reason hfound hstrict =>
    have hplain : IsPlain name := ⟨mt Or.symm hdot, hup⟩
    exact .stopped (.stop hplain (h.stops ht hplain hfound))
  case case5 hlenient ih => exact absurd rfl hlenient
  case case6 pending p name rest hdot hup next target hfound =>
    exact .circles h.not_whole_of_depth ⟨target, hfound⟩
  case case7 pending p name rest hdot hup next target hfound less hpending =>
    have hplain : IsPlain name := ⟨mt Or.symm hdot, hup⟩
    have hlink := h.hasEntry ht hplain hfound
    exact .circles (h.not_whole_of_mem ht hplain hlink (List.contains_iff_mem.mp hpending))
      ⟨target, hfound⟩
  case case8 pending p name rest hdot hup next target hfound less hpending base fault hbelow ih =>
    have hplain : IsPlain name := ⟨mt Or.symm hdot, hup⟩
    have hlink := h.hasEntry ht hplain hfound
    have hresolved := ih (h.below ht hplain hlink)
    rw [hbelow] at hresolved
    exact hresolved.lost hplain hlink
  case case9 pending p name rest hdot hup next target hfound less hpending base q hbelow ih =>
    have hplain : IsPlain name := ⟨mt Or.symm hdot, hup⟩
    have hlink := h.hasEntry ht hplain hfound
    have hresolved := ih (h.below ht hplain hlink)
    rw [hbelow] at hresolved
    cases hresolved
  case case10 pending p name rest hdot hup next target hfound less hpending base q hbelow ihlink ih =>
    have hplain : IsPlain name := ⟨mt Or.symm hdot, hup⟩
    have hlink := h.hasEntry ht hplain hfound
    have hresolved := ihlink (h.below ht hplain hlink)
    rw [hbelow] at hresolved
    cases hresolved with
    | ended htarget hleads hreal =>
      exact (ih (h.behind hplain hlink hleads hreal htarget)).link hplain hlink htarget
  case case11 depth pending p name rest hdot hup next n hnoLink hfound ih =>
    have hplain : IsPlain name := ⟨mt Or.symm hdot, hup⟩
    have hentry := h.hasEntry ht hplain hfound
    have hreal := Node.isLink_eq_false hnoLink
    exact (ih (h.entry hplain hentry hreal)).entry hplain hentry hreal

end Steps

/-- A resolution of a path starts where the path does. -/
theorem resolving_start (ht : t.Grounded) (p : Path) :
    Resolving t (∃ cost goal, Ends t cost (t.start p) p.names goal) (2 * countLinks t.top + 1) []
      (if p.isAbsolute then ⟨.top, []⟩ else ⟨.here, []⟩) (t.start p) p.names where
  leads := leadsTo_start t p
  real := by
    obtain ⟨entries, hat⟩ := ht.dir
    unfold start
    split
    · exact real_nil hat
    · exact ⟨_, hat, rfl⟩
  deep := by
    rw [List.length_nil]
    omega
  bounded hwhole := by
    obtain ⟨cost, goal, hends⟩ := hwhole
    exact ⟨cost, goal, hends, List.nodup_nil, fun q hq => absurd hq List.not_mem_nil⟩

/-- **What a strict resolution of a path ends in.** It resolves the path, or fails where the path
stops; if the path has no end, it fails at a link. -/
theorem resolve_strict (ht : t.Grounded) (p : Path) :
    (¬ t.Unending p ∧ ((∃ q, t.resolve true p = .ok q) ∨
      ∃ fault, t.resolve true p = .error fault ∧ fault.reason ≠ .linkLoop)) ∨
    (t.Unending p ∧ ∃ q, t.resolve true p = .error ⟨t.loopReason q, q.text⟩ ∧
      t.isLink? q = .ok true) := by
  have hresolved := resolved ht (resolving_start ht p)
  unfold resolve
  dsimp only
  cases hresult : t.resolveNames true (2 * countLinks t.top + 1) []
      (if p.isAbsolute then ⟨.top, []⟩ else ⟨.here, []⟩) p.names with
  | ok found =>
    rw [hresult] at hresolved
    cases hresolved with
    | ended hends => exact .inl ⟨fun hnone => hnone _ _ hends, .inl ⟨_, rfl⟩⟩
  | error fault =>
    rw [hresult] at hresolved
    cases hresolved with
    | stopped hends =>
      exact .inl ⟨fun hnone => hnone _ _ hends, .inr ⟨_, rfl, hends.ne_linkLoop⟩⟩
    | circles hwhole hlink =>
      obtain ⟨target, hlink⟩ := hlink
      refine .inr ⟨fun cost goal hends => hwhole ⟨cost, goal, hends⟩, _, rfl, ?_⟩
      rw [isLink?, hlink]
      rfl

end PinLedger.FileTree

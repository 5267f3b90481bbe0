/-
# Paths that cannot be measured

A path is not measured if it is a link that cannot be resolved, or if there is nothing at what it is
resolved to. This is reported, with two exceptions: a resolution that finds links which lead back to
themselves breaks down, and a path with a NUL in it cannot be asked for at all.

A listing ends with the failure of the first local package that is not measured.

Key definitions: `FileTree.NulFree`, `FileTree.NamedBy`, `FileTree.endlessFailure`.
Key theorems: `FileTree.sizeAt_eq_error`, `FileTree.sizeAt_of_unending`, `FileTree.sizeAt_of_hasNul`,
`list_eq_error_of_origin`, `unmeasured_package_ends_listing`.
-/
import PinLedger.Proofs.Files.Ends
import PinLedger.Proofs.Listing.Origin

namespace PinLedger

open Outcome

namespace FileTree

variable {t : FileTree} {p q : Path} {fault : OsFault} {e : Failure}

/-! ### Paths that are asked for -/

/-- No entry of the tree has a NUL in its name. -/
def NulFree (t : FileTree) : Prop :=
  ∀ place n, t.top.at? place = some n → ∀ name ∈ place, '\x00' ∉ name.toList

theorem NulFree.of_lookup (h : t.NulFree) {here : List String} {entries : List (String × Node)}
    (hat : t.top.at? here = some (.dir entries)) {name : String} {n : Node}
    (hn : entries.lookup name = some n) : '\x00' ∉ name.toList :=
  h _ n (Node.at?_concat hat hn) name (List.mem_append_right here (List.mem_singleton_self name))

/-- Names that are followed to their end have no NUL in them. -/
theorem nul_not_mem_of_walk (h : t.NulFree) {followLast : Bool} {links : Nat}
    {here names : List String} {found : List String × Node}
    (hwalk : t.walk followLast links here names = .ok found) :
    ∀ name ∈ names, '\x00' ∉ name.toList := by
  fun_induction t.walk followLast links here names with
  | case1 => exact fun _ hname => absurd hname List.not_mem_nil
  | case2 | case5 | case6 | case8 | case11 | case12 => cases hwalk
  | case3 links here name rest entries hat hdot ih =>
    refine List.forall_mem_cons.mpr ⟨?_, ih hwalk⟩
    rcases hdot with rfl | rfl <;> decide
  | case4 links here rest entries hat hdot ih =>
    exact List.forall_mem_cons.mpr ⟨by decide, ih hwalk⟩
  | case7 links here name rest entries hat hdot hup hfits target hlookup hlast =>
    obtain rfl : rest = [] := List.isEmpty_iff.mp (Bool.and_eq_true_iff.mp hlast).1
    exact List.forall_mem_singleton.mpr (h.of_lookup hat hlookup)
  | case9 here name rest entries hat hdot hup hfits target hlookup hlast more start ih =>
    exact List.forall_mem_cons.mpr ⟨h.of_lookup hat hlookup, fun other hother =>
      ih hwalk other (List.mem_append_right _ hother)⟩
  | case10 links here name rest entries hat hdot hup hfits n hlink hlookup ih =>
    exact List.forall_mem_cons.mpr ⟨h.of_lookup hat hlookup, ih hwalk⟩

theorem hasNul_eq_false_iff : p.hasNul = false ↔ ∀ name ∈ p.names, '\x00' ∉ name.toList := by
  simp [Path.hasNul]

theorem hasNul_of_find (h : t.NulFree) {n : Node} (hfind : t.find p = .ok n) :
    p.hasNul = false := by
  obtain ⟨found, hwalk, -⟩ := map_eq_ok_iff.mp hfind
  exact hasNul_eq_false_iff.mpr (nul_not_mem_of_walk h hwalk)

theorem hasNul_of_isLink? (h : t.NulFree) (hlink : t.isLink? p = .ok true) : p.hasNul = false := by
  obtain ⟨place, n, hwalk, -⟩ := walk_of_isLink? hlink
  exact hasNul_eq_false_iff.mpr (nul_not_mem_of_walk h hwalk)

/-! ### What is not measured -/

/-- A question about a path fails only with a name that is too long. -/
theorem isLink?_eq_error (h : t.isLink? p = .error fault) : fault.reason = .nameTooLong := by
  unfold isLink? ask at h
  split at h <;> cases h
  rfl

theorem settle_of_link (h : t.isLink? p = .ok true) : t.settle p = t.resolve true p := by
  rw [settle, h]

/-- A report on a path names the path or, if it is a link, what it is resolved to. -/
def NamedBy (t : FileTree) (p q : Path) : Prop :=
  q = p ∨ t.isLink? p = .ok true ∧ t.resolve true p = .ok q

theorem settle_eq_ok (h : t.settle p = .ok q) : t.NamedBy p q := by
  unfold settle at h
  split at h
  · next hlink => exact .inr ⟨hlink, h⟩
  · exact .inl (Except.ok.inj h).symm
  · cases h

/-- Only at a link on a way without an end does a path settle on a loop. -/
theorem settle_eq_loop (ht : t.Grounded) (h : t.settle p = .error fault)
    (hloop : fault.reason = .linkLoop) : t.isLink? p = .ok true ∧ t.Unending p := by
  unfold settle at h
  split at h
  · next hlink =>
    rcases resolve_strict ht p with ⟨-, ⟨q, hq⟩ | ⟨fault', hfault, hreason⟩⟩ | ⟨hnone, -⟩
    · rw [hq] at h
      cases h
    · rw [hfault] at h
      cases h
      exact absurd hloop hreason
    · exact ⟨hlink, hnone⟩
  · cases h
  · next hlink =>
    cases h
    rw [isLink?_eq_error hlink] at hloop
    cases hloop

theorem result_unmeasured (given p : Path) (fault : OsFault) : (unmeasured given p fault).result =
    .error (if given.hasNul then .breakdown .outOfRange
      else .diagnosed (.packageSize p.text fault)) := by
  unfold unmeasured
  split <;> rfl

theorem result_sizeAt_of_settle_eq_error (h : t.settle p = .error fault) : (t.sizeAt p).result =
    if fault.reason = .linkLoop then .error (.breakdown .linkLoop)
    else (unmeasured p p fault).result := by
  unfold sizeAt
  rw [h]
  dsimp only
  split <;> rfl

theorem result_sizeAt_of_find_eq_error {reason : OsReason} (hsettle : t.settle p = .ok q)
    (hfind : t.find q = .error reason) :
    (t.sizeAt p).result = (unmeasured p q ⟨reason, q.text⟩).result := by
  unfold sizeAt
  rw [hsettle]
  dsimp only
  rw [hfind]

/-- A path is not measured if it does not settle, or settles where there is nothing. -/
theorem sizeAt_failure (h : (t.sizeAt p).result = .error e) :
    (∃ fault, t.settle p = .error fault) ∨
      ∃ q reason, t.settle p = .ok q ∧ t.find q = .error reason := by
  cases hsettle : t.settle p with
  | error fault => exact .inl ⟨fault, rfl⟩
  | ok q =>
    cases hfind : t.find q with
    | error reason => exact .inr ⟨q, reason, rfl, hfind⟩
    | ok n =>
      rw [result_sizeAt hsettle hfind] at h
      cases h

/-- What is not measured for another reason than a loop is reported, if it can be asked for. -/
theorem unmeasured_eq_error {given : Path} (hq : t.NamedBy given q)
    (h : (unmeasured given q fault).result = .error e) :
    (∃ q fault, t.NamedBy given q ∧ e = .diagnosed (.packageSize q.text fault)) ∨
      e = .breakdown .outOfRange ∧ given.hasNul = true := by
  rw [result_unmeasured] at h
  obtain rfl := Except.error.inj h
  cases hnul : given.hasNul with
  | true => exact .inr ⟨rfl, rfl⟩
  | false => exact .inl ⟨q, fault, hq, rfl⟩

/-- A path that is not measured is reported, or it is a link on a way without an end, or it cannot
be asked for. -/
theorem sizeAt_eq_error (ht : t.Grounded) (h : (t.sizeAt p).result = .error e) :
    (∃ q fault, t.NamedBy p q ∧ e = .diagnosed (.packageSize q.text fault)) ∨
    (e = .breakdown .linkLoop ∧ t.isLink? p = .ok true ∧ t.Unending p) ∨
    (e = .breakdown .outOfRange ∧ p.hasNul = true) := by
  rcases sizeAt_failure h with ⟨fault, hsettle⟩ | ⟨q, reason, hsettle, hfind⟩
  · rw [result_sizeAt_of_settle_eq_error hsettle] at h
    by_cases hloop : fault.reason = .linkLoop
    · rw [if_pos hloop] at h
      exact .inr (.inl ⟨(Except.error.inj h).symm, settle_eq_loop ht hsettle hloop⟩)
    · rw [if_neg hloop] at h
      exact (unmeasured_eq_error (.inl rfl) h).imp_right .inr
  · rw [result_sizeAt_of_find_eq_error hsettle hfind] at h
    exact (unmeasured_eq_error (settle_eq_ok hsettle) h).imp_right .inr

/-- What measuring a link on a way without an end fails with, if the resolution gives up at `q`. It
is the loop, unless asking for `q` fails for another reason. -/
def endlessFailure (t : FileTree) (p q : Path) : Failure :=
  if t.loopReason q = .linkLoop then .breakdown .linkLoop
  else .diagnosed (.packageSize p.text ⟨t.loopReason q, q.text⟩)

theorem sizeAt_of_unending (ht : t.Grounded) (hnul : t.NulFree) (hlink : t.isLink? p = .ok true)
    (hnone : t.Unending p) : ∃ q, t.isLink? q = .ok true ∧
      (t.sizeAt p).result = .error (t.endlessFailure p q) := by
  rcases resolve_strict ht p with ⟨hends, -⟩ | ⟨-, q, hresolve, hq⟩
  · exact absurd hnone hends
  · refine ⟨q, hq, ?_⟩
    rw [result_sizeAt_of_settle_eq_error ((settle_of_link hlink).trans hresolve), result_unmeasured,
      hasNul_of_isLink? hnul hlink]
    unfold endlessFailure
    split <;> rfl

theorem sizeAt_of_hasNul (ht : t.Grounded) (hnul : t.NulFree) (h : p.hasNul = true) :
    (t.sizeAt p).result = .error (.breakdown .outOfRange) := by
  have hnoLink : t.isLink? p ≠ .ok true := fun hlink => by
    rw [hasNul_of_isLink? hnul hlink] at h
    cases h
  have hbreak : ∀ q fault, (unmeasured p q fault).result = .error (.breakdown .outOfRange) :=
    fun q fault => by rw [result_unmeasured, if_pos h]
  cases hsettle : t.settle p with
  | error fault =>
    have hnoLoop : fault.reason ≠ .linkLoop := fun hloop =>
      hnoLink (settle_eq_loop ht hsettle hloop).1
    rw [result_sizeAt_of_settle_eq_error hsettle, if_neg hnoLoop, hbreak]
  | ok q =>
    obtain rfl : q = p := (settle_eq_ok hsettle).resolve_right fun hlink => hnoLink hlink.1
    cases hfind : t.find q with
    | error reason => rw [result_sizeAt_of_find_eq_error hsettle hfind, hbreak]
    | ok n =>
      rw [hasNul_of_find hnul hfind] at h
      cases h

end FileTree

/-! ### Listings -/

theorem result_originOfLocation_path {t : FileTree} {root : Path} {text : String} {e : Failure}
    (h : (t.sizeAt (root.join (Path.ofText text))).result = .error e) :
    (Package.originOfLocation t (some root) (.path text)).result = .error e := by
  unfold Package.originOfLocation
  dsimp only
  rw [Traced.result_bind, h]
  rfl

/-- A listing fails with the failure of the first package whose origin is not found. -/
theorem list_eq_error_of_origin {s : Surroundings} {w : Workspace} {q : Query} {sel : Selection}
    (hsel : (Workspace.select s q).outcome w = .ok sel)
    (hlocked : q.usage = .locked → sel.missing = []) {index : Option WheelIndex}
    (hindex : (indexFor s q.noInstall sel.records).result = .ok index) {before after : List Record}
    {record : Record} (hrecords : sel.records = before ++ record :: after)
    (hbefore : ∀ r ∈ before,
      ∃ o, originOf s.tree sel.lock.root (index.map (·.cache)) r = .ok o) {e : Failure}
    (hfailed : originOf s.tree sel.lock.root (index.map (·.cache)) record = .error e) :
    (Workspace.list s q).outcome w = .error e := by
  have hpackages : (sel.packages s q.noInstall).result = .error e := by
    unfold Selection.packages
    rw [Traced.result_bind, hindex, ok_bind,
      result_ofRecords sel.explicit sel.lock.root (agrees_of_indexFor hindex), mapM_eq_error_iff]
    refine ⟨before, record, after, hrecords, fun r hr => ?_, by rw [hfailed]; rfl⟩
    obtain ⟨o, ho⟩ := hbefore r hr
    exact ⟨packageOf sel.explicit o r, by rw [ho]; rfl⟩
  have hnotRefused : ¬ (q.usage = .locked ∧ sel.missing ≠ []) := fun h => h.2 (hlocked h.1)
  rw [Workspace.outcome_list, hsel, ok_bind, result_list, if_neg hnotRefused, Selection.unchecked,
    Traced.result_bind, hpackages]
  rfl

/-- **A local package whose path is not measured ends a listing.** A path that is not measured is
reported, and the report names the path or what it is resolved to. Exceptions are links on a way
without an end, where the resolution breaks down at a link unless asking for that link fails for
another reason, and exactly the paths with a NUL. What the first local package that is not measured
fails with is what the listing fails with. -/
theorem unmeasured_package_ends_listing {s : Surroundings} (ht : s.tree.Grounded)
    (hnul : s.tree.NulFree) :
    (∀ p e, (s.tree.sizeAt p).result = .error e →
      (∃ q fault, s.tree.NamedBy p q ∧ e = .diagnosed (.packageSize q.text fault)) ∨
      (e = .breakdown .linkLoop ∧ s.tree.isLink? p = .ok true ∧ s.tree.Unending p) ∨
      (e = .breakdown .outOfRange ∧ p.hasNul = true)) ∧
    (∀ p, s.tree.isLink? p = .ok true → s.tree.Unending p →
      ∃ q, s.tree.isLink? q = .ok true ∧
        (s.tree.sizeAt p).result = .error (s.tree.endlessFailure p q)) ∧
    (∀ p, p.hasNul = true → (s.tree.sizeAt p).result = .error (.breakdown .outOfRange)) ∧
    ∀ (w : Workspace) (q : Query) (sel : Selection) (index : Option WheelIndex)
      (before after : List Record) (r : PypiRecord) (text : String) (e : Failure),
      (Workspace.select s q).outcome w = .ok sel → (q.usage = .locked → sel.missing = []) →
      (indexFor s q.noInstall sel.records).result = .ok index →
      sel.records = before ++ .pypi r :: after →
      (∀ b ∈ before, ∃ o, originOf s.tree sel.lock.root (index.map (·.cache)) b = .ok o) →
      (r.hash = none ∨ index = none) → r.location = .path text →
      (s.tree.sizeAt (sel.lock.root.join (Path.ofText text))).result = .error e →
      (Workspace.list s q).outcome w = .error e := by
  refine ⟨fun p e => FileTree.sizeAt_eq_error ht, fun p => FileTree.sizeAt_of_unending ht hnul,
    fun p => FileTree.sizeAt_of_hasNul ht hnul, ?_⟩
  intro w q sel index before after r text e hsel hlocked hindex hrecords hbefore hlocal hpath hsize
  refine list_eq_error_of_origin hsel hlocked hindex hrecords hbefore ?_
  have hcache : r.hash = none ∨ index.map (·.cache) = none :=
    hlocal.imp_right fun hnone => by rw [hnone]; rfl
  rw [originOf_pypi_eq_located hcache, hpath]
  exact result_originOfLocation_path hsize

/-! ### A link to itself -/

/-- A directory with nothing but a link to itself. -/
def circledTree : FileTree := ⟨.dir [("l", .link "l")], []⟩

/-- The path of the link. -/
def circle : Path := ⟨.here, ["l"]⟩

namespace FileTree

theorem grounded_circledTree : circledTree.Grounded := ⟨isPlace_nil, _, rfl⟩

theorem hasEntry_circle : HasEntry circledTree [] "l" (.link "l") := ⟨_, rfl, by decide, rfl⟩

/-- The link stands for its own name. -/
theorem target_circle : baseOf [] "l" = [] ∧ Text.split '/' "l" = ["l"] :=
  ⟨ite_self _, by decide⟩

theorem unending_circle : circledTree.Unending circle := by
  intro cost
  change ∀ goal, ¬ Ends circledTree cost [] ["l"] goal
  induction cost using Nat.strongRecOn with
  | ind cost ih =>
    intro goal hends
    obtain ⟨below, goal', hlt, hbelow⟩ := hends.target_of_link (by decide) hasEntry_circle
    rw [target_circle.1, target_circle.2] at hbelow
    exact ih below hlt goal' hbelow

theorem findLink_circle : circledTree.findLink circle = .ok (.link "l") :=
  findLink_child grounded_circledTree (leadsTo_start circledTree ⟨.here, []⟩) rfl (by decide)
    (by decide) rfl

theorem isLink?_circle : circledTree.isLink? circle = .ok true := by
  rw [isLink?, findLink_circle]
  rfl

/-- However many links are followed, there is one more. -/
theorem walk_circle (links : Nat) : circledTree.walk true links [] ["l"] = .error .linkLoop := by
  have hplain : IsPlain "l" ∧ PinLedger.Fits "l" := by decide
  induction links with
  | zero => exact walk_of_loop rfl hplain.1 hplain.2 rfl (by simp)
  | succ links ih =>
    have htarget : targetNames "l" ++ [] = ["l"] := by decide
    rw [walk_of_link rfl hplain.1 hplain.2 rfl (by simp), ite_self, htarget, ih]

theorem loopReason_circle : circledTree.loopReason circle = .linkLoop := by
  have hfind : circledTree.find circle = .error .linkLoop := by
    unfold find locate
    exact congrArg (Except.map Prod.snd) (walk_circle maxLinks)
  rw [loopReason, hfind]

/-- The link is met again while it is resolved. -/
theorem resolve_circle : circledTree.resolve true circle = .error ⟨.linkLoop, "l"⟩ := by
  have hplain : ¬ ("l" = "" ∨ "l" = ".") ∧ "l" ≠ ".." := by decide
  have hfind : circledTree.findLink (Path.child ⟨.here, []⟩ "l") = .ok (.link "l") :=
    findLink_circle
  have hloop : resolveNames.looped circledTree true (Path.child ⟨.here, []⟩ "l") [] =
      .error ⟨.linkLoop, "l"⟩ := by
    change Except.error (OsFault.mk (circledTree.loopReason circle) circle.text) = _
    rw [loopReason_circle]
    decide
  have hbase : (if "l".startsWith "/" then ⟨.top, []⟩ else ⟨.here, []⟩ : Path) = ⟨.here, []⟩ := by
    decide +kernel
  have hagain : circledTree.resolveNames true 2 [Path.child ⟨.here, []⟩ "l"] ⟨.here, []⟩ ["l"] =
      .error ⟨.linkLoop, "l"⟩ := by
    rw [resolveNames_of_plain _ hplain.1 hplain.2, hfind]
    exact hloop
  have hfirst : circledTree.resolveNames true (2 * countLinks circledTree.top + 1) []
      (if circle.isAbsolute then ⟨.top, []⟩ else ⟨.here, []⟩) circle.names =
        .error ⟨.linkLoop, "l"⟩ := by
    change circledTree.resolveNames true 3 [] ⟨.here, []⟩ ["l"] = _
    rw [resolveNames_of_plain _ hplain.1 hplain.2, hfind]
    dsimp only
    rw [if_neg (by decide), hbase, target_circle.2, hagain]
  unfold resolve
  dsimp only
  rw [hfirst]

/-- **Measuring the link breaks down.** -/
theorem circle_breaks_down :
    (circledTree.sizeAt circle).result = .error (.breakdown .linkLoop) :=
  result_sizeAt_of_settle_eq_error ((settle_of_link isLink?_circle).trans resolve_circle)

theorem nulFree_circledTree : circledTree.NulFree := by
  intro place n hat
  cases place with
  | nil => exact fun _ hname => absurd hname List.not_mem_nil
  | cons name rest =>
    obtain ⟨entries, child, hdir, hn, hrest⟩ := Node.at?_cons_eq_some hat
    obtain rfl := Node.dir.inj hdir
    obtain ⟨rfl, rfl⟩ : name = "l" ∧ child = .link "l" := by
      rw [List.lookup_cons] at hn
      cases hname : name == "l" with
      | true =>
        rw [hname] at hn
        exact ⟨beq_iff_eq.mp hname, (Option.some.inj hn).symm⟩
      | false =>
        rw [hname] at hn
        cases hn
    cases rest with
    | nil => decide
    | cons => cases hrest

end FileTree

/-- A lock file with a local package that is not there. -/
def goneLock : LockFile where
  path := ⟨.here, ["pixi.lock"]⟩
  document := ⟨6, [(defaultName, [("linux-64", [[("pypi", .text "./gone")]])])], []⟩
  table := [(⟨"pypi", "./gone"⟩, .pypi ⟨"gone", "1", none, false, .path "./gone", []⟩)]

/-- A workspace with this lock file. -/
def goneWorkspace : Workspace := { smallWorkspace with lock := some goneLock }

/-- Surroundings whose only file is the link to itself. -/
def circledSurroundings : Surroundings := { bareSurroundings with tree := circledTree }

theorem sizeAt_gone :
    (circledTree.sizeAt (goneLock.root.join (Path.ofText "./gone"))).result =
      .error (.diagnosed (.packageSize "gone" ⟨.missing, "gone"⟩)) := by
  have hpath : goneLock.root.join (Path.ofText "./gone") = ⟨.here, ["gone"]⟩ := by decide +kernel
  have hwalk : ∀ followLast, circledTree.walk followLast FileTree.maxLinks
      (circledTree.start ⟨.here, ["gone"]⟩) ["gone"] = .error .missing := fun followLast =>
    FileTree.walk_of_missing rfl (by decide) (by decide) rfl
  have hsettle : circledTree.settle ⟨.here, ["gone"]⟩ = .ok ⟨.here, ["gone"]⟩ := by
    rw [FileTree.settle, FileTree.isLink?, FileTree.findLink, hwalk]
    rfl
  have hfind : circledTree.find ⟨.here, ["gone"]⟩ = .error .missing := by
    rw [FileTree.find, FileTree.locate, hwalk]
    rfl
  rw [hpath, FileTree.result_sizeAt_of_find_eq_error hsettle hfind]
  decide

/-- The package that is not there ends its listing with a report. -/
theorem gone_package_ends_listing :
    circledSurroundings.tree.Grounded ∧ circledSurroundings.tree.NulFree ∧
    (∃ q, circledTree.isLink? q = .ok true ∧
      (circledTree.sizeAt circle).result = .error (circledTree.endlessFailure circle q)) ∧
    (circledTree.sizeAt ⟨.here, ["\x00"]⟩).result = .error (.breakdown .outOfRange) ∧
    (Workspace.list circledSurroundings { noInstall := true }).outcome goneWorkspace =
      .error (.diagnosed (.packageSize "gone" ⟨.missing, "gone"⟩)) := by
  obtain ⟨-, hcircle, hnul, hlist⟩ := unmeasured_package_ends_listing (s := circledSurroundings)
    FileTree.grounded_circledTree FileTree.nulFree_circledTree
  refine ⟨FileTree.grounded_circledTree, FileTree.nulFree_circledTree,
    hcircle circle FileTree.isLink?_circle FileTree.unending_circle, hnul _ (by decide), ?_⟩
  let sel : Selection := ⟨none, .default, "linux-64", goneLock, goneLock.table.map (·.2),
    ["numpy", "py-test"]⟩
  have hsel : (Workspace.select circledSurroundings { noInstall := true }).outcome goneWorkspace =
      .ok sel := rfl
  exact hlist goneWorkspace { noInstall := true } sel none [] []
    ⟨"gone", "1", none, false, .path "./gone", []⟩ "./gone" _ hsel (by simp) rfl rfl (by simp)
    (.inl rfl) rfl sizeAt_gone

end PinLedger

/-
# Locating a workspace agrees with opening it

A workspace is located by going up from a directory. What is found is the nearest directory that
opens as a workspace, and locating again from there, or from a directory on the way, finds the same.

Key definition: `LocatesAsOpened`.
Key theorems: `Path.withParents_of_eq_append`, `locating_agrees_with_opening`,
`longLink_breaks_locating`.
-/
import Mathlib.Data.List.Induction
import PinLedger.Proofs.Files.Resolution
import PinLedger.Proofs.Files.TextFile
import PinLedger.Proofs.Manifest.Detection
import PinLedger.Proofs.Manifest.Naming
import PinLedger.Proofs.WheelIndex.Snapshot

namespace PinLedger

open Document (Value)
open Outcome

/-! ### A directory and those above it -/

namespace Path

theorem withParents_concat (anchor : Anchor) (names : List String) (name : String) :
    withParents ⟨anchor, names ++ [name]⟩ =
      ⟨anchor, names ++ [name]⟩ :: withParents ⟨anchor, names⟩ := by
  unfold withParents
  rw [List.range_succ_eq_map, List.map_cons, List.map_map]
  simp only [List.length_append, List.length_singleton, Nat.sub_zero]
  have hall : (names ++ [name]).take (names.length + 1) = names ++ [name] :=
    List.take_of_length_le (by simp)
  refine congrArg₂ _ (by rw [hall]) (List.map_congr_left fun n hn => ?_)
  have hle : n ≤ names.length := Nat.le_of_lt_succ (List.mem_range.mp hn)
  simp only [Function.comp_apply]
  rw [List.take_append_of_le_length (by omega)]
  congr 2
  omega

theorem eq_take_of_mem_withParents {p c : Path} (h : c ∈ p.withParents) :
    ∃ n, c = ⟨p.anchor, p.names.take n⟩ := by
  obtain ⟨n, -, rfl⟩ := List.mem_map.mp h
  exact ⟨_, rfl⟩

/-- The directories above one of the directories above a path are the rest of them. -/
theorem withParents_of_eq_append {p c : Path} {below above : List Path}
    (h : p.withParents = below ++ c :: above) : c.withParents = c :: above := by
  obtain ⟨anchor, names⟩ := p
  induction names using List.reverseRecOn generalizing below with
  | nil =>
    obtain ⟨rfl, rfl, rfl⟩ : below = [] ∧ c = ⟨anchor, []⟩ ∧ above = [] := by
      rcases List.append_eq_singleton_iff.mp h.symm with ⟨hbelow, hrest⟩ | ⟨-, hrest⟩
      · obtain ⟨hc, habove⟩ := List.cons.inj hrest
        exact ⟨hbelow, hc, habove⟩
      · cases hrest
    rfl
  | append_singleton names name ih =>
    rw [withParents_concat] at h
    rcases List.append_eq_cons_iff.mp h.symm with ⟨-, hrest⟩ | ⟨more, -, hrest⟩
    · obtain ⟨rfl, rfl⟩ := List.cons.inj hrest
      exact withParents_concat anchor names name
    · exact ih hrest

theorem withParents_subset {p c : Path} (h : c ∈ p.withParents) :
    c.withParents ⊆ p.withParents := by
  obtain ⟨below, above, hsplit⟩ := List.append_of_mem h
  rw [withParents_of_eq_append hsplit, hsplit]
  exact List.subset_append_right below _

theorem nodup_withParents (p : Path) : p.withParents.Nodup := by
  refine List.Nodup.map_on (fun m hm n hn hmn => ?_) List.nodup_range
  have hlength := congrArg List.length (Path.mk.inj hmn).2
  rw [List.length_take, List.length_take] at hlength
  rw [List.mem_range] at hm hn
  omega

/-- A directory on the way from a path to `r` has the same way up from there on. -/
theorem withParents_between {p c r : Path} {below above : List Path}
    (h : p.withParents = below ++ r :: above) (hc : c ∈ p.withParents) (hr : r ∈ c.withParents) :
    ∃ rest, c.withParents = rest ++ r :: above ∧ rest ⊆ below := by
  obtain ⟨before, after, hsplit⟩ := List.append_of_mem hc
  have hafter := withParents_of_eq_append hsplit
  rcases List.append_eq_append_iff.mp (h.symm.trans hsplit) with
    ⟨more, rfl, hmore⟩ | ⟨more, rfl, hmore⟩
  · cases more with
    | nil =>
      rw [hafter, ← List.nil_append (c :: after), ← hmore]
      exact ⟨[], rfl, List.nil_subset below⟩
    | cons _ more =>
      -- No directory above `r` has `r` above it.
      obtain ⟨rfl, rfl⟩ := List.cons.inj hmore
      have hnodup := nodup_withParents p
      rw [h] at hnodup
      have hout := (List.nodup_cons.mp hnodup.of_append_right).1
      rw [hafter] at hr
      exact absurd (List.mem_append_right more hr) hout
  · rw [hafter, hmore]
    exact ⟨more, rfl, List.subset_append_right _ _⟩

end Path

/-! ### Locating -/

/-- What is located from a directory is what opening says. Here `d` is a path to the directory, and
`dir` is what the path is resolved to. -/
structure LocatesAsOpened (s : Surroundings) (d dir : Path) : Prop where
  /-- The root is the nearest workspace. -/
  nearest : ∀ r, (projectRoot s.tree manifestFileNames d).result = .ok (some r) ↔
    ∃ below above, dir.withParents = below ++ r :: above ∧
      IsWorkspace s.tree r ∧ ¬ MeetsLongName s.tree r ∧ ∀ c ∈ below, IsPassed s.tree c
  /-- There is no root if there is no workspace. -/
  nowhere : (projectRoot s.tree manifestFileNames d).result = .ok none ↔
    ∀ c ∈ dir.withParents, IsPassed s.tree c
  /-- Nothing but a name that is too long breaks the way up down. -/
  broken : ∀ e, (projectRoot s.tree manifestFileNames d).result = .error e ↔
    e = .breakdown (.file .nameTooLong) ∧ ∃ below c above, dir.withParents = below ++ c :: above ∧
      MeetsLongName s.tree c ∧ ∀ b ∈ below, IsPassed s.tree b
  /-- A missing manifest is reported only if no directory is a workspace. -/
  missing : ∀ text,
    (Workspace.locate s (some d)).result = .error (.diagnosed (.manifestMissing text)) ↔
      text = d.text ∧ ∀ c ∈ dir.withParents, IsPassed s.tree c
  /-- The workspace that is opened is the root, and a manifest file of its own goes first. -/
  opened : ∀ w, (Workspace.locate s (some d)).result = .ok w →
    (projectRoot s.tree manifestFileNames d).result = .ok (some w.root) ∧
      w.file.flavour = if ManifestFile.isThere s.tree w.root .own then .own else .project
  /-- The root, and every directory on the way to it, has the same root. -/
  again : ∀ r, (projectRoot s.tree manifestFileNames d).result = .ok (some r) →
    ∀ c ∈ dir.withParents, r ∈ c.withParents →
      (projectRoot s.tree manifestFileNames c).result = .ok (some r) ∧
        (Workspace.locate s (some c)).result = (Workspace.locate s (some d)).result

section

variable {t : FileTree} {s : Surroundings} {d : Path} {place : List String}

theorem directoryAt_of_mem_withParents (h : t.DirectoryAt place) {c : Path}
    (hc : c ∈ (⟨.top, place⟩ : Path).withParents) :
    ∃ front, c = ⟨.top, front⟩ ∧ t.DirectoryAt front := by
  obtain ⟨n, rfl⟩ := Path.eq_take_of_mem_withParents hc
  exact ⟨_, rfl, h.take n⟩

theorem result_projectRoot (hresolve : t.resolve false d = .ok ⟨.top, place⟩)
    (h : t.DirectoryAt place) (names : List String) : (projectRoot t names d).result =
      (firstRoot t names (⟨.top, place⟩ : Path).withParents).result := by
  obtain ⟨entries, hfind⟩ := h.find
  have hdir : Traced.ofAnswer (t.resolve false d) = pure ⟨.top, place⟩ := by
    rw [hresolve]
    rfl
  unfold projectRoot
  rw [hdir, pure_bind, hfind]
  rfl

theorem isFile?_of_isDir (h : t.isDir? d = .ok true) : t.isFile? d = .ok false := by
  unfold FileTree.isDir? FileTree.ask at h
  unfold FileTree.isFile? FileTree.ask
  split at h
  · next n hn =>
    have hdir : n.isDir = true := Except.ok.inj h
    cases n with
    | dir entries => rfl
    | file content => cases hdir
    | link target => cases hdir
  · cases h
  · cases h

theorem result_locate (hd : s.tree.isDir? d = .ok true) :
    (Workspace.locate s (some d)).result =
      (projectRoot s.tree manifestFileNames d).result >>= fun found =>
        match found with
        | some r => (Workspace.open s r).result
        | none => .error (.diagnosed (.manifestMissing d.text)) := by
  have hfile : s.tree.isFile? d = .ok false := isFile?_of_isDir hd
  unfold Workspace.locate
  rw [Option.getD_some]
  dsimp only
  rw [hfile, Traced.result_bind, Traced.result_ofAnswer]
  change (if false = true then _ else _ : Traced _).result = _
  rw [if_neg Bool.false_ne_true, Traced.result_bind]
  refine bind_congr fun found => ?_
  cases found <;> rfl

theorem isFile?_of_file {content : Content} (h : t.find d = .ok (.file content)) :
    t.isFile? d = .ok true := by
  unfold FileTree.isFile?
  rw [h]
  rfl

theorem isFile?_of_missing (h : t.find d = .error .missing) : t.isFile? d = .ok false := by
  unfold FileTree.isFile?
  rw [h]
  rfl

theorem isDir?_place (h : t.DirectoryAt place) : t.isDir? ⟨.top, place⟩ = .ok true := by
  obtain ⟨entries, hfind⟩ := h.find
  unfold FileTree.isDir?
  rw [hfind]
  rfl

theorem holds_exists?_of_mem (h : t.DirectoryAt place) {c : Path}
    (hc : c ∈ (⟨.top, place⟩ : Path).withParents) : FileTree.holds (t.exists? c) = true := by
  obtain ⟨front, rfl, hfront⟩ := directoryAt_of_mem_withParents h hc
  obtain ⟨entries, hfind⟩ := hfront.find
  unfold FileTree.exists?
  rw [hfind]
  rfl

/-- Opening what counts as a workspace does not end in a missing manifest. -/
theorem open_ne_missing {r : Path} (h : IsWorkspace s.tree r) (text : String) :
    (Workspace.open s r).result ≠ .error (.diagnosed (.manifestMissing text)) := by
  rw [Workspace.result_open]
  exact bind_ne_error (h text) fun _ h => by cases h

end

section

variable {s : Surroundings} {d : Path} {place : List String}
  (hplace : s.tree.DirectoryAt place)
  (hreads : ∀ c ∈ (⟨.top, place⟩ : Path).withParents, ProjectFileReads s.tree c)

include hplace hreads

theorem holdsManifest_eq_false_iff_of_mem {c : Path}
    (hc : c ∈ (⟨.top, place⟩ : Path).withParents) :
    (holdsManifest s.tree c manifestFileNames).result = .ok false ↔ IsPassed s.tree c :=
  holdsManifest_eq_false_iff (holds_exists?_of_mem hplace hc) (hreads c hc)

variable (hresolve : s.tree.resolve false d = .ok ⟨.top, place⟩)

include hresolve

theorem projectRoot_eq_none_iff : (projectRoot s.tree manifestFileNames d).result = .ok none ↔
    ∀ c ∈ (⟨.top, place⟩ : Path).withParents, IsPassed s.tree c := by
  rw [result_projectRoot hresolve hplace, firstRoot_eq_none_iff]
  exact forall₂_congr fun c hc => holdsManifest_eq_false_iff_of_mem hplace hreads hc

/-- The way up stops at the first directory that it does not go past. -/
theorem projectRoot_stops_iff {x : Except Failure (Option Path)} (hx : x ≠ .ok none) :
    (projectRoot s.tree manifestFileNames d).result = x ↔
      ∃ below c above, (⟨.top, place⟩ : Path).withParents = below ++ c :: above ∧
        ¬ IsPassed s.tree c ∧
        (fun _ => some c) <$> (holdsManifest s.tree c manifestFileNames).result = x ∧
        ∀ b ∈ below, IsPassed s.tree b := by
  rw [result_projectRoot hresolve hplace, firstRoot_stops_iff hx]
  refine exists₃_congr fun below c above => and_congr_right fun heq => ?_
  have hmem : ∀ b ∈ below ++ c :: above, b ∈ (⟨.top, place⟩ : Path).withParents := by simp [heq]
  rw [Ne, holdsManifest_eq_false_iff_of_mem hplace hreads (hmem c (by simp))]
  refine and_congr_right fun _ => and_congr_right fun _ => forall₂_congr fun b hb => ?_
  exact holdsManifest_eq_false_iff_of_mem hplace hreads (hmem b (List.mem_append_left _ hb))

theorem projectRoot_eq_some_iff {r : Path} :
    (projectRoot s.tree manifestFileNames d).result = .ok (some r) ↔
      ∃ below above, (⟨.top, place⟩ : Path).withParents = below ++ r :: above ∧
        IsWorkspace s.tree r ∧ ¬ MeetsLongName s.tree r ∧ ∀ c ∈ below, IsPassed s.tree c := by
  rw [projectRoot_stops_iff hplace hreads hresolve (by simp)]
  constructor
  · rintro ⟨below, c, above, heq, hstop, hc, hbelow⟩
    obtain ⟨b, hb, hcr⟩ := map_eq_ok_iff.mp hc
    obtain rfl := Option.some.inj hcr
    have hmem : c ∈ (⟨.top, place⟩ : Path).withParents := by simp [heq]
    cases b with
    | false =>
      exact absurd ((holdsManifest_eq_false_iff_of_mem hplace hreads hmem).mp hb) hstop
    | true =>
      obtain ⟨hworks, hshort⟩ := (holdsManifest_eq_true_iff (holds_exists?_of_mem hplace hmem)
        (hreads c hmem)).mp hb
      exact ⟨below, above, heq, hworks, hshort, hbelow⟩
  · rintro ⟨below, above, heq, hworks, hshort, hbelow⟩
    have hmem : r ∈ (⟨.top, place⟩ : Path).withParents := by simp [heq]
    have hr := (holdsManifest_eq_true_iff (holds_exists?_of_mem hplace hmem)
      (hreads r hmem)).mpr ⟨hworks, hshort⟩
    exact ⟨below, r, above, heq, fun hpassed => hpassed.1 hworks, by rw [hr]; rfl, hbelow⟩

theorem projectRoot_eq_error_iff {e : Failure} :
    (projectRoot s.tree manifestFileNames d).result = .error e ↔
      e = .breakdown (.file .nameTooLong) ∧
        ∃ below c above, (⟨.top, place⟩ : Path).withParents = below ++ c :: above ∧
          MeetsLongName s.tree c ∧ ∀ b ∈ below, IsPassed s.tree b := by
  rw [projectRoot_stops_iff hplace hreads hresolve (by simp)]
  constructor
  · rintro ⟨below, c, above, heq, -, hc, hbelow⟩
    have hmem : c ∈ (⟨.top, place⟩ : Path).withParents := by simp [heq]
    obtain ⟨he, hlong⟩ := (holdsManifest_eq_error_iff (holds_exists?_of_mem hplace hmem)
      (hreads c hmem)).mp (map_eq_error_iff.mp hc)
    exact ⟨he, below, c, above, heq, hlong, hbelow⟩
  · rintro ⟨he, below, c, above, heq, hlong, hbelow⟩
    have hmem : c ∈ (⟨.top, place⟩ : Path).withParents := by simp [heq]
    have hc := (holdsManifest_eq_error_iff (holds_exists?_of_mem hplace hmem)
      (hreads c hmem)).mpr ⟨he, hlong⟩
    exact ⟨below, c, above, heq, fun hpassed => hpassed.2 hlong, map_eq_error_iff.mpr hc, hbelow⟩

theorem locates_again (ht : s.tree.Grounded) (hd : s.tree.isDir? d = .ok true) {r : Path}
    (hr : (projectRoot s.tree manifestFileNames d).result = .ok (some r)) {c : Path}
    (hc : c ∈ (⟨.top, place⟩ : Path).withParents) (hrc : r ∈ c.withParents) :
    (projectRoot s.tree manifestFileNames c).result = .ok (some r) ∧
      (Workspace.locate s (some c)).result = (Workspace.locate s (some d)).result := by
  obtain ⟨below, above, heq, hworks, hshort, hbelow⟩ :=
    (projectRoot_eq_some_iff hplace hreads hresolve).mp hr
  obtain ⟨rest, hrest, hsub⟩ := Path.withParents_between heq hc hrc
  obtain ⟨front, rfl, hfront⟩ := directoryAt_of_mem_withParents hplace hc
  have hreads' : ∀ b ∈ (⟨.top, front⟩ : Path).withParents, ProjectFileReads s.tree b :=
    fun b hb => hreads b (Path.withParents_subset hc hb)
  have hagain : (projectRoot s.tree manifestFileNames ⟨.top, front⟩).result = .ok (some r) :=
    (projectRoot_eq_some_iff hfront hreads' (hfront.resolve_eq ht)).mpr
      ⟨rest, above, hrest, hworks, hshort, fun b hb => hbelow b (hsub hb)⟩
  refine ⟨hagain, ?_⟩
  rw [result_locate (isDir?_place hfront), result_locate hd, hagain, hr]
  rfl

end

/-- **Locating a workspace agrees with opening it.** From every directory whose way up has only
project files that can be read, the root that is found is the nearest directory that opens as a
workspace; only a name that is too long breaks this. -/
theorem locating_agrees_with_opening (s : Surroundings) (d : Path) (ht : s.tree.Grounded)
    (hd : s.tree.isDir? d = .ok true)
    (hreads : ∀ dir, s.tree.resolve false d = .ok dir →
      ∀ c ∈ dir.withParents, ProjectFileReads s.tree c) :
    ∃ place, s.tree.resolve false d = .ok ⟨.top, place⟩ ∧ s.tree.DirectoryAt place ∧
      LocatesAsOpened s d ⟨.top, place⟩ := by
  obtain ⟨place, hresolve, hplace⟩ := FileTree.resolve_of_isDir ht hd
  have hreads := hreads _ hresolve
  refine ⟨place, hresolve, hplace, ?_⟩
  have hnearest : ∀ {r}, (projectRoot s.tree manifestFileNames d).result = .ok (some r) →
      IsWorkspace s.tree r := fun hr => by
    obtain ⟨_, _, -, hworks, -⟩ := (projectRoot_eq_some_iff hplace hreads hresolve).mp hr
    exact hworks
  exact {
    nearest := fun r => projectRoot_eq_some_iff hplace hreads hresolve
    nowhere := projectRoot_eq_none_iff hplace hreads hresolve
    broken := fun e => projectRoot_eq_error_iff hplace hreads hresolve
    missing := fun text => by
      rw [result_locate hd, bind_eq_error_iff, ← projectRoot_eq_none_iff hplace hreads hresolve]
      constructor
      · rintro (herror | ⟨found, hfound, hrest⟩)
        · cases ((projectRoot_eq_error_iff hplace hreads hresolve).mp herror).1
        · cases found with
          | none =>
            cases hrest
            exact ⟨rfl, hfound⟩
          | some r => exact absurd hrest (open_ne_missing (hnearest hfound) text)
      · rintro ⟨rfl, hnone⟩
        exact .inr ⟨none, hnone, rfl⟩
    opened := fun w hw => by
      rw [result_locate hd] at hw
      obtain ⟨found, hfound, hw⟩ := bind_eq_ok_iff.mp hw
      cases found with
      | none => cases hw
      | some r =>
        obtain ⟨hfile, rfl, -⟩ := Workspace.open_eq_ok hw
        exact ⟨hfound, (ManifestFile.isOpened_open hfile).flavour⟩
    again := fun r hr c hc hrc => locates_again hplace hreads hresolve ht hd hr hc hrc }

/-- A directory whose project file holds no manifest. -/
def toolsEntries : List (String × Node) :=
  [("pyproject.toml", .file (.ofText "[tool.other]\n"))]

/-- A workspace around this directory. -/
def wsEntries : List (String × Node) :=
  [("pixi.toml", .file (.ofText "")), ("tools", .dir toolsEntries)]

/-- A tree with this workspace, and a link into it. -/
def shortcutTree : FileTree :=
  ⟨.dir [("shortcut", .link "ws/tools"), ("ws", .dir wsEntries)], []⟩

theorem isPlace_tools : FileTree.IsPlace ["ws", "tools"] := by
  have hplain : ∀ name ∈ ["ws", "tools"], IsPlain name ∧ Fits name := by decide
  exact hplain

theorem grounded_shortcutTree : shortcutTree.Grounded := ⟨FileTree.isPlace_nil, _, rfl⟩

theorem locate_shortcut : shortcutTree.locate ⟨.top, ["shortcut"]⟩ =
    .ok (["ws", "tools"], .dir toolsEntries) := by
  have hat : shortcutTree.top.at? ["ws", "tools"] = some (.dir toolsEntries) := rfl
  have hnames : FileTree.targetNames "ws/tools" = ["ws", "tools"] := by decide +kernel
  have hdown : shortcutTree.walk true (FileTree.maxLinks - 1) [] (["ws", "tools"] ++ []) =
      shortcutTree.walk true (FileTree.maxLinks - 1) ["ws", "tools"] [] :=
    FileTree.walk_place isPlace_tools hat rfl []
  rw [FileTree.locate_top_link rfl (by decide) (by decide) rfl, hnames]
  exact hdown.trans (FileTree.walk_nil hat)

theorem readToml_tools : readToml shortcutTree ⟨.top, ["ws", "tools", "pyproject.toml"]⟩ =
    .ok (.ofFields [("tool", .ofFields [("other", .table [])])]) := by
  have hplain : ∀ name ∈ ["ws", "tools", "pyproject.toml"], IsPlain name ∧ Fits name := by decide
  exact readToml_of_text (FileTree.find_place hplain rfl rfl) rfl

theorem holdsManifest_tools :
    (holdsManifest shortcutTree ⟨.top, ["ws", "tools"]⟩ manifestFileNames).result = .ok false := by
  have hat : shortcutTree.top.at? ["ws", "tools"] = some (.dir toolsEntries) := rfl
  have hplain : ∀ name ∈ ["ws", "tools", "pyproject.toml"], IsPlain name ∧ Fits name := by decide
  have hown : shortcutTree.isFile? (ManifestFile.pathIn ⟨.top, ["ws", "tools"]⟩ .own) = .ok false :=
    isFile?_of_missing (FileTree.find_below_missing isPlace_tools hat (by decide) (by decide) rfl)
  have hproject : shortcutTree.isFile? (ManifestFile.pathIn ⟨.top, ["ws", "tools"]⟩ .project) =
      .ok true := isFile?_of_file (FileTree.find_place hplain rfl rfl)
  have hinside : holdsInside shortcutTree ⟨.top, ["ws", "tools"]⟩ .project = .ok false := by
    change readToml shortcutTree ⟨.top, ["ws", "tools", "pyproject.toml"]⟩ >>= _ = _
    rw [readToml_tools]
    rfl
  rw [result_holdsManifest, result_isManifestAt, result_isManifestAt, hown, hproject]
  exact hinside

theorem holdsManifest_ws :
    (holdsManifest shortcutTree ⟨.top, ["ws"]⟩ manifestFileNames).result = .ok true := by
  have hplain : ∀ name ∈ ["ws", "pixi.toml"], IsPlain name ∧ Fits name := by decide
  have hown : shortcutTree.isFile? (ManifestFile.pathIn ⟨.top, ["ws"]⟩ .own) = .ok true :=
    isFile?_of_file (FileTree.find_place hplain rfl rfl)
  rw [result_holdsManifest, result_isManifestAt, hown]
  rfl

theorem projectFileReads_shortcutTree {dir : Path}
    (h : shortcutTree.resolve false ⟨.top, ["shortcut"]⟩ = .ok dir) :
    ∀ c ∈ dir.withParents, ProjectFileReads shortcutTree c := by
  have hresolve := (FileTree.resolve_of_locate grounded_shortcutTree locate_shortcut).1
  obtain rfl := Except.ok.inj (hresolve.symm.trans h)
  have hplace : FileTree.IsPlace ["ws"] :=
    isPlace_tools.of_sublist (List.sublist_append_left ["ws"] ["tools"])
  have hat : shortcutTree.top.at? ["ws"] = some (.dir wsEntries) := rfl
  have hws : shortcutTree.isFile? ⟨.top, ["ws"] ++ ["pyproject.toml"]⟩ = .ok false :=
    isFile?_of_missing (FileTree.find_below_missing hplace hat (by decide) (by decide) rfl)
  have htop : shortcutTree.isFile? ⟨.top, ["pyproject.toml"]⟩ = .ok false :=
    isFile?_of_missing (FileTree.find_top_missing rfl (by decide) (by decide) rfl)
  have hall : ProjectFileReads shortcutTree ⟨.top, ["ws", "tools"]⟩ ∧
      ProjectFileReads shortcutTree ⟨.top, ["ws"]⟩ ∧ ProjectFileReads shortcutTree ⟨.top, []⟩ := by
    refine ⟨fun _ => ⟨_, readToml_tools, fun tool htool => ?_⟩, fun hthere => ?_, fun hthere => ?_⟩
    · exact ⟨_, (Option.some.inj htool).symm⟩
    · exact absurd ((congrArg FileTree.holds hws).symm.trans hthere) Bool.false_ne_true
    · exact absurd ((congrArg FileTree.holds htop).symm.trans hthere) Bool.false_ne_true
  simpa [Path.withParents, List.range_succ] using hall

/-- From the link, the workspace around the directory is found. -/
theorem root_of_shortcut :
    shortcutTree.Grounded ∧ shortcutTree.isDir? ⟨.top, ["shortcut"]⟩ = .ok true ∧
    (∀ dir, shortcutTree.resolve false ⟨.top, ["shortcut"]⟩ = .ok dir →
      ∀ c ∈ dir.withParents, ProjectFileReads shortcutTree c) ∧
    (∃ place, shortcutTree.resolve false ⟨.top, ["shortcut"]⟩ = .ok ⟨.top, place⟩ ∧
      shortcutTree.DirectoryAt place ∧
        LocatesAsOpened ⟨shortcutTree, [], "linux-64"⟩ ⟨.top, ["shortcut"]⟩ ⟨.top, place⟩) ∧
    (projectRoot shortcutTree manifestFileNames ⟨.top, ["shortcut"]⟩).result =
      .ok (some ⟨.top, ["ws"]⟩) := by
  have hdir : shortcutTree.isDir? ⟨.top, ["shortcut"]⟩ = .ok true := by
    unfold FileTree.isDir? FileTree.find
    rw [locate_shortcut]
    rfl
  have hreads : ∀ dir, shortcutTree.resolve false ⟨.top, ["shortcut"]⟩ = .ok dir →
      ∀ c ∈ dir.withParents, ProjectFileReads shortcutTree c :=
    fun _ hresolve => projectFileReads_shortcutTree hresolve
  refine ⟨grounded_shortcutTree, hdir, hreads, locating_agrees_with_opening
    ⟨shortcutTree, [], "linux-64"⟩ ⟨.top, ["shortcut"]⟩ grounded_shortcutTree hdir hreads, ?_⟩
  have hresolve := (FileTree.resolve_of_locate grounded_shortcutTree locate_shortcut).1
  rw [result_projectRoot hresolve ⟨isPlace_tools, toolsEntries, rfl⟩]
  change (firstRoot shortcutTree manifestFileNames
    [⟨.top, ["ws", "tools"]⟩, ⟨.top, ["ws"]⟩, ⟨.top, []⟩]).result = _
  rw [result_firstRoot_cons, holdsManifest_tools, ok_bind, if_neg Bool.false_ne_true,
    result_firstRoot_cons, holdsManifest_ws]
  rfl

/-! ### A manifest file that leads to a name that is too long -/

/-- A directory whose manifest file is a link to a name that no directory can hold. -/
def longLinkTree : FileTree := ⟨.dir [("pixi.toml", .link WheelIndex.longName)], []⟩

theorem targetNames_of_not_mem {name : String} (hslash : '/' ∉ name.toList) (hname : name ≠ "") :
    FileTree.targetNames name = [name] := by
  have hsplit : Text.split '/' name = [name] := by
    rw [Text.split, Text.splitAt_of_not_mem hslash, List.map_singleton, String.ofList_toList]
  simp [FileTree.targetNames, hsplit, hname]

theorem find_longLink : longLinkTree.find ⟨.top, ["pixi.toml"]⟩ = .error .nameTooLong := by
  have hne : ∀ {name : String}, Fits name → WheelIndex.longName ≠ name := WheelIndex.longName_ne
  have hplain : IsPlain WheelIndex.longName :=
    ⟨not_or.mpr ⟨hne (by decide), hne (by decide)⟩, hne (by decide)⟩
  have hwalk : longLinkTree.walk true (FileTree.maxLinks - 1) [] [WheelIndex.longName] =
      .error .nameTooLong := FileTree.walk_of_long rfl hplain WheelIndex.longName_is_long
  rw [FileTree.find_top_link rfl (by decide) (by decide) rfl,
    targetNames_of_not_mem WheelIndex.slash_not_mem_longName (hne (by decide)), hwalk]
  rfl

/-- There is no workspace at or above the directory, and nothing is found from it: instead the way
up breaks down. -/
theorem longLink_breaks_locating :
    longLinkTree.Grounded ∧ longLinkTree.isDir? ⟨.top, []⟩ = .ok true ∧
    (⟨.top, []⟩ : Path).withParents = [⟨.top, []⟩] ∧
    ManifestFile.isThere longLinkTree ⟨.top, []⟩ .project = false ∧
    (ManifestFile.open longLinkTree ⟨.top, []⟩).result =
      .error (.diagnosed (.manifestMissing "/")) ∧
    (projectRoot longLinkTree manifestFileNames ⟨.top, []⟩).result =
      .error (.breakdown (.file .nameTooLong)) := by
  have hgrounded : longLinkTree.Grounded := ⟨FileTree.isPlace_nil, _, rfl⟩
  have hown : ManifestFile.isThere longLinkTree ⟨.top, []⟩ .own = false :=
    congrArg FileTree.holds (isFile?_of_long find_longLink)
  have hproject : ManifestFile.isThere longLinkTree ⟨.top, []⟩ .project = false := by
    have hfind : longLinkTree.find ⟨.top, ["pyproject.toml"]⟩ = .error .missing :=
      FileTree.find_top_missing rfl (by decide) (by decide) rfl
    exact congrArg FileTree.holds (isFile?_of_missing hfind)
  have hlong : MeetsLongName longLinkTree ⟨.top, []⟩ := .inl find_longLink
  refine ⟨hgrounded, isDir?_place hgrounded, rfl, hproject, ?_, ?_⟩
  · rw [ManifestFile.result_open, hown, hproject, Bool.and_false, if_neg Bool.false_ne_true,
      if_neg Bool.false_ne_true]
    rfl
  · have hresolve : longLinkTree.resolve false ⟨.top, []⟩ = .ok ⟨.top, []⟩ :=
      hgrounded.resolve_eq hgrounded
    rw [result_projectRoot hresolve hgrounded]
    change (firstRoot longLinkTree manifestFileNames [⟨.top, []⟩]).result = _
    rw [result_firstRoot_cons, holdsManifest_of_long hlong]
    rfl

end PinLedger

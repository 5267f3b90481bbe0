/-
# The command prints all or nothing

A run of the command lists first and prints afterwards. So either the whole listing is written, in
the form that the options ask for, or nothing is; and every diagnosis of the listing ends in exit
code 1 and a line for the error output. The environment that is listed is looked up twice, the
second time by its own name: that is the same environment, as manifests keep environments under
their names. It is named before a table is made. A line of the error output holds the name as it is
only if the name is of characters that are shown and has room behind its label.

Key definitions: `Lists`, `Renders`, `FailsWith`, `Prints`, `Breaks`, `Reports`.
Key theorems: `listing_eq_ok_iff`, `listing_eq_diagnosed_iff`, `rendered_eq_ok_iff`,
`command_prints_all_or_nothing`, `environment_is_misnamed`.
-/
import PinLedger.Proofs.Command.Lines
import PinLedger.Proofs.Listing.Explicit
import PinLedger.Proofs.Manifest.Naming
import PinLedger.Proofs.Workspace.Snapshot

namespace PinLedger

open Outcome Visit
open Workspace (environmentName lockContent openedProject ownPackage project projectTree)

namespace Command

/-! ### What is listed -/

/-- The options lead to a workspace and a way to use its lock file. -/
def Locates (s : Surroundings) (o : ListOptions) (usage : LockUsage) (w : Workspace) : Prop :=
  LockUsage.ofFlags o.frozen o.locked = some usage ∧
    (Workspace.locate s o.manifestPath).result = .ok w

/-- The query of the options in an environment lists packages. -/
def Lists (s : Surroundings) (o : ListOptions) (ps : List Package) : Prop :=
  ∃ usage w, Locates s o usage w ∧
    (Workspace.list s (o.query (environmentName s o.environment) usage)).outcome w = .ok ps

/-- A listing fails with a diagnosis: of the flags, of the place, of the environment or of the
query. -/
inductive FailsWith (s : Surroundings) (o : ListOptions) (d : Diagnosis) : Prop
  | usage (h : LockUsage.ofFlags o.frozen o.locked = none) (hd : d = .usageConflict)
  | place (usage : LockUsage) (h : LockUsage.ofFlags o.frozen o.locked = some usage)
    (hd : (Workspace.locate s o.manifestPath).result = .error (.diagnosed d))
  | environment (usage : LockUsage) (w : Workspace) (h : Locates s o usage w)
    (hd : w.environmentOf s o.environment = .error (.diagnosed d))
  | query (usage : LockUsage) (w : Workspace) (e : EnvironmentSpec) (h : Locates s o usage w)
    (he : w.environmentOf s o.environment = .ok e)
    (hd : (Workspace.list s (o.query (environmentName s o.environment) usage)).outcome w =
      .error (.diagnosed d))

section

variable (s : Surroundings) (o : ListOptions)

theorem result_listing : (listing s o).result =
    match LockUsage.ofFlags o.frozen o.locked with
    | none => .error (.diagnosed .usageConflict)
    | some usage => (Workspace.locate s o.manifestPath).result >>= fun w =>
      w.environmentOf s o.environment >>= fun e =>
        (Workspace.list s (o.query e.name usage)).outcome w >>= fun ps => .ok ⟨e, ps⟩ := by
  unfold listing
  cases LockUsage.ofFlags o.frozen o.locked with
  | none => rfl
  | some usage =>
    dsimp only
    rw [Traced.result_bind]
    refine bind_congr fun w => ?_
    have hvisit : (visit s o usage).outcome w =
        w.environmentOf s o.environment >>= fun e =>
          (Workspace.list s (o.query e.name usage)).outcome w >>= fun ps => .ok ⟨e, ps⟩ := by
      unfold visit
      rw [outcome_workspace_bind, outcome_bind, outcome_ofExcept, leaves_ofExcept]
      refine bind_congr fun e => ?_
      rw [outcome_bind]
      rfl
    rw [Traced.result_bind, Traced.result_leave, ok_bind, Traced.result_ofExcept, ← hvisit]
    rfl

variable {s o}

/-- The environment that is asked for by its own name is the one that was found. -/
theorem environmentOf_name {w : Workspace} {e : EnvironmentSpec} {usage : LockUsage}
    (h : Locates s o usage w) (he : w.environmentOf s o.environment = .ok e) :
    e.name = environmentName s o.environment :=
  Workspace.name_of_environmentOf (Workspace.isRead_locate h.2).namedByKey he

theorem environmentOf_of_list {w : Workspace} {usage : LockUsage} {ps : List Package}
    (h : (Workspace.list s (o.query (environmentName s o.environment) usage)).outcome w = .ok ps) :
    ∃ e, w.environmentOf s o.environment = .ok e := by
  obtain ⟨sel, -, hsel, -⟩ := list_eq_ok_iff.mp h
  obtain ⟨-, he, -⟩ := (Workspace.select_eq_ok_iff s w _ sel).mp hsel
  exact ⟨sel.environment, he⟩

theorem listing_eq_ok_iff {l : Listing} : (listing s o).result = .ok l ↔
    ∃ usage w, Locates s o usage w ∧ w.environmentOf s o.environment = .ok l.environment ∧
      (Workspace.list s (o.query (environmentName s o.environment) usage)).outcome w =
        .ok l.packages := by
  rw [result_listing]
  cases husage : LockUsage.ofFlags o.frozen o.locked with
  | none => simp [Locates, husage]
  | some usage =>
    simp only [bind_eq_ok_iff]
    constructor
    · rintro ⟨w, hw, e, he, ps, hps, hl⟩
      obtain rfl := Except.ok.inj hl
      rw [environmentOf_name ⟨husage, hw⟩ he] at hps
      exact ⟨usage, w, ⟨husage, hw⟩, he, hps⟩
    · rintro ⟨usage', w, ⟨husage', hw⟩, he, hps⟩
      obtain rfl := Option.some.inj (husage.symm.trans husage')
      rw [← environmentOf_name ⟨husage, hw⟩ he] at hps
      exact ⟨w, hw, l.environment, he, l.packages, hps, rfl⟩

theorem listing_eq_diagnosed_iff {d : Diagnosis} :
    (listing s o).result = .error (.diagnosed d) ↔ FailsWith s o d := by
  rw [result_listing]
  cases husage : LockUsage.ofFlags o.frozen o.locked with
  | none =>
    constructor
    · intro h
      cases h
      exact .usage husage rfl
    · rintro (⟨-, rfl⟩ | ⟨usage, hu, -⟩ | ⟨usage, w, hl, -⟩ | ⟨usage, w, e, hl, -⟩)
      · rfl
      · cases husage.symm.trans hu
      · cases husage.symm.trans hl.1
      · cases husage.symm.trans hl.1
  | some usage =>
    simp only [bind_eq_error_iff, reduceCtorEq, and_false, exists_false, or_false]
    constructor
    · rintro (hw | ⟨w, hw, he | ⟨e, he, hps⟩⟩)
      · exact .place usage husage hw
      · exact .environment usage w ⟨husage, hw⟩ he
      · rw [environmentOf_name ⟨husage, hw⟩ he] at hps
        exact .query usage w e ⟨husage, hw⟩ he hps
    · rintro (⟨hu, -⟩ | ⟨_, -, hw⟩ | ⟨_, w, hl, he⟩ | ⟨usage', w, e, hl, he, hps⟩)
      · cases husage.symm.trans hu
      · exact .inl hw
      · exact .inr ⟨w, hl.2, .inl he⟩
      · obtain rfl := Option.some.inj (husage.symm.trans hl.1)
        rw [← environmentOf_name hl he] at hps
        exact .inr ⟨w, hl.2, .inr ⟨e, he, hps⟩⟩

end

/-! ### What is printed -/

/-- The text of packages in the form that the options ask for. -/
inductive Renders (columns : Nat) (o : ListOptions) (ps : List Package) : String → Prop
  | compact {json : String} (hjson : o.json = true) (hpretty : o.jsonPretty = false)
    (h : packagesJson false ps = .ok json) : Renders columns o ps (json ++ "\n")
  | pretty {json : String} (hpretty : o.jsonPretty = true) (h : packagesJson true ps = .ok json) :
    Renders columns o ps (json ++ "\n")
  | table {printed : Printed} (hjson : o.json = false) (hpretty : o.jsonPretty = false)
    (h : printTable columns {} ps = .ok printed) : Renders columns o ps printed.text

theorem rendered_eq_ok_iff {columns : Nat} {o : ListOptions} {ps : List Package} {text : String} :
    rendered columns o ps = .ok text ↔ Renders columns o ps text := by
  unfold rendered ListOptions.isJson
  constructor
  · intro h
    cases hjson : o.json <;> cases hpretty : o.jsonPretty <;> rw [hjson, hpretty] at h <;>
      obtain ⟨a, ha, rfl⟩ := map_eq_ok_iff.mp h
    · exact .table hjson hpretty ha
    · exact .pretty hpretty ha
    · exact .compact hjson hpretty ha
    · exact .pretty hpretty ha
  · rintro (⟨hjson, hpretty, h⟩ | ⟨hpretty, h⟩ | ⟨hjson, hpretty, h⟩)
    · rw [hjson, hpretty, h]
      rfl
    · rw [hpretty, h, Bool.or_true]
      rfl
    · rw [hjson, hpretty, h]
      rfl

/-- What a table cannot show is no diagnosis. -/
theorem cells_ne_diagnosed (t : PackageTable) (d : Diagnosis) :
    t.cells ≠ .error (.diagnosed d) := by
  have hshown : ∀ texts : List String,
      ((texts.mapM Markup.render).mapError fun f => Failure.breakdown f.breakdown) ≠
        .error (.diagnosed d) := fun texts h => by
    obtain ⟨f, -, hf⟩ := mapError_eq_error_iff.mp h
    cases hf
  refine bind_ne_error (hshown _) fun versions => bind_ne_error (hshown _) fun builds => ?_
  dsimp only
  split
  · simp
  · simp

/-- No diagnosis comes up while packages are rendered. -/
theorem rendered_ne_diagnosed (columns : Nat) (o : ListOptions) (ps : List Package)
    (d : Diagnosis) : rendered columns o ps ≠ .error (.diagnosed d) := by
  have hsize : ∀ p, TableRow.sizeOf p ≠ .error (.diagnosed d) := fun p => by
    unfold TableRow.sizeOf
    repeat' split
    all_goals simp
  have hrow : ∀ p, TableRow.ofPackage {} p ≠ .error (.diagnosed d) := fun p =>
    bind_ne_error (hsize p) fun _ h => by cases h
  have hrows : ps.mapM (TableRow.ofPackage {}) ≠ .error (.diagnosed d) := fun h => by
    obtain ⟨_, p, _, -, -, hp⟩ := mapM_eq_error_iff.mp h
    exact hrow p hp
  have htable : PackageTable.ofPackages {} ps ≠ .error (.diagnosed d) :=
    bind_ne_error hrows fun _ h => by cases h
  have hprint : ∀ t : PackageTable, t.print columns ≠ .error (.diagnosed d) := fun t => by
    unfold PackageTable.print
    split
    · exact bind_ne_error (cells_ne_diagnosed t d) fun _ h => by cases h
    · simp
  unfold rendered
  intro h
  split at h
  · have hjson := map_eq_error_iff.mp h
    unfold packagesJson at hjson
    split at hjson <;> cases hjson
  · exact bind_ne_error htable hprint (map_eq_error_iff.mp h)

/-- The name of the environment as it is shown above a table. -/
def environmentText (s : Surroundings) (o : ListOptions) : String :=
  "Environment: " ++ environmentName s o.environment

/-- A table is asked for, of another environment than the default one. -/
def IsNamed (s : Surroundings) (o : ListOptions) : Prop :=
  o.isJson = false ∧ environmentName s o.environment ≠ defaultName

/-- What is left by a run that prints a listing. -/
structure Prints (s : Surroundings) (c : Consoles) (o : ListOptions) (out : Outcome) : Prop where
  ending : out.ending = .exit 0
  /-- All packages of the listing are written, sorted and in the form that was asked for. -/
  packages : ∃ ps, Lists s o ps ∧ ps ≠ [] ∧
    Renders c.output o (sortPackages o.sortKey ps) out.stdout
  /-- A line for the environment comes with a table of another environment than the default one, if
  its label has room. -/
  environment : 12 ≤ c.errors →
    ((∃ line ∈ out.stderr, environmentLabel <+: line.toList) ↔ IsNamed s o)
  /-- The environment is named in the last lines, as the console breaks them. -/
  named : IsNamed s o → shownLines c.errors (environmentText s o) <:+ out.stderr
  /-- A name that takes one line is named in it as it is. -/
  whole : IsNamed s o → TakesOneLine c.errors (environmentText s o) →
    environmentText s o ∈ out.stderr

/-- What is left by a run that breaks down with a listing: the environment is named, and nothing is
printed. -/
structure Breaks (s : Surroundings) (c : Consoles) (o : ListOptions) (e : Failure)
    (out : Outcome) : Prop where
  ending : out.ending = .broken e
  stdout : out.stdout = ""
  named : IsNamed s o → shownLines c.errors (environmentText s o) <:+ out.stderr

/-- What is left by a run that reports a diagnosis. -/
structure Reports (c : Consoles) (d : Diagnosis) (out : Outcome) : Prop where
  ending : out.ending = .exit 1
  stdout : out.stdout = ""
  message : errorLines c.errors d.message <:+ out.stderr
  front : 8 ≤ c.errors → ∃ line ∈ out.stderr, "Error: ".toList <+: line.toList

section

variable {s : Surroundings} {o : ListOptions} {c : Consoles} {verbose : Bool}

/-- The lines for the environment are those of its text, where it is named. -/
theorem environmentLines_eq {l : Listing} (hl : (listing s o).result = .ok l) :
    (IsNamed s o ∧
      environmentLines c.errors o l.environment = shownLines c.errors (environmentText s o)) ∨
    (¬ IsNamed s o ∧ environmentLines c.errors o l.environment = []) := by
  obtain ⟨usage, w, hw, he, -⟩ := listing_eq_ok_iff.mp hl
  have hname : l.environment.name = environmentName s o.environment := environmentOf_name hw he
  unfold environmentLines EnvironmentSpec.isDefault IsNamed environmentText
  rw [hname]
  cases o.isJson with
  | true => simp
  | false =>
    by_cases hdefault : environmentName s o.environment = defaultName
    · simp [hdefault]
    · simp [hdefault]

/-- A console on which the text for the environment takes one line has columns: its label alone
takes some. -/
theorem columns_ne_zero_of_takesOneLine (h : TakesOneLine c.errors (environmentText s o)) :
    c.errors ≠ 0 := by
  have hlone := h.lone
  have hroom := h.room
  rw [environmentText, String.toList_append] at hlone hroom
  rw [width_append hlone] at hroom
  have hlabel : Text.width "Environment: ".toList = 13 := by decide +kernel
  omega

/-- A listing that is rendered is printed. -/
theorem prints_of_rendered {l : Listing} {text : String} (hl : (listing s o).result = .ok l)
    (htext : rendered c.output o (sortPackages o.sortKey l.packages) = .ok text) :
    Prints s c o (runList s c .ready verbose o) ∧
      (runList s c .ready verbose o).stdout = text := by
  obtain ⟨usage, w, hw, he, hps⟩ := listing_eq_ok_iff.mp hl
  obtain ⟨-, -, -, -, -, -, hne⟩ := list_eq_ok_iff.mp hps
  have hrun : runList s c .ready verbose o = ⟨.exit 0, text,
      trailLines c.errors verbose (listing s o).trail ++ environmentLines c.errors o l.environment,
      (listing s o).trail⟩ := by
    unfold runList print
    simp [hl, htext, written]
  have hsuffix : IsNamed s o → shownLines c.errors (environmentText s o) <:+
      trailLines c.errors verbose (listing s o).trail ++
        environmentLines c.errors o l.environment := fun hnamed => by
    rcases environmentLines_eq (c := c) hl with ⟨-, hlines⟩ | ⟨hnot, -⟩
    · rw [hlines]
      exact List.suffix_append ..
    · exact absurd hnamed hnot
  rw [hrun]
  refine ⟨⟨rfl, ⟨l.packages, ⟨usage, w, hw, hps⟩, hne, rendered_eq_ok_iff.mp htext⟩,
    fun hroom => ⟨?_, fun hnamed => ?_⟩, hsuffix, fun hnamed hline => ?_⟩, rfl⟩
  · rintro ⟨line, hmem, hfront⟩
    rcases environmentLines_eq (c := c) hl with ⟨hnamed, -⟩ | ⟨-, hlines⟩
    · exact hnamed
    · rw [hlines, List.append_nil] at hmem
      exact absurd hfront (not_prefix_of_mem_trailLines hmem)
  · obtain ⟨line, lines, heq, hfront⟩ :=
      environmentLines_label hroom (environmentName s o.environment)
    have hmem : line ∈ shownLines c.errors (environmentText s o) := by
      rw [environmentText, heq]
      exact List.mem_cons_self ..
    exact ⟨line, (hsuffix hnamed).subset hmem, hfront⟩
  · refine (hsuffix hnamed).subset ?_
    rw [shownLines_of_takesOneLine (columns_ne_zero_of_takesOneLine hline) hline]
    exact List.mem_singleton_self _

/-- A listing that cannot be rendered breaks the run down. -/
theorem breaks_of_rendered {l : Listing} {e : Failure} (hl : (listing s o).result = .ok l)
    (he : rendered c.output o (sortPackages o.sortKey l.packages) = .error e) :
    Breaks s c o e (runList s c .ready verbose o) := by
  have hrun : runList s c .ready verbose o = ⟨.broken e, "",
      trailLines c.errors verbose (listing s o).trail ++ environmentLines c.errors o l.environment,
      (listing s o).trail⟩ := by
    unfold runList print
    simp [hl, he]
  rw [hrun]
  refine ⟨rfl, rfl, fun hnamed => ?_⟩
  rcases environmentLines_eq (c := c) hl with ⟨-, hlines⟩ | ⟨hnot, -⟩
  · rw [hlines]
    exact List.suffix_append ..
  · exact absurd hnamed hnot

theorem reports_of_diagnosed {d : Diagnosis} (hd : (listing s o).result = .error (.diagnosed d)) :
    Reports c d (runList s c .ready verbose o) := by
  have hrun : runList s c .ready verbose o = ⟨.exit 1, "",
      trailLines c.errors verbose (listing s o).trail ++ errorLines c.errors d.message,
      (listing s o).trail⟩ := by
    unfold runList
    simp [hd]
  rw [hrun]
  refine ⟨rfl, rfl, List.suffix_append .., fun hroom => ?_⟩
  obtain ⟨line, lines, heq, hfront⟩ := errorLines_diagnosis hroom d
  refine ⟨line, List.mem_append_right _ ?_, hfront⟩
  rw [heq]
  exact List.mem_cons_self ..

/-- Every run prints a listing, breaks down, or reports a diagnosis. -/
theorem runList_cases (s : Surroundings) (c : Consoles) (verbose : Bool) (o : ListOptions) :
    Prints s c o (runList s c .ready verbose o) ∨
    (∃ d, Reports c d (runList s c .ready verbose o)) ∨
    ∃ e, (∀ d, e ≠ .diagnosed d) ∧ (runList s c .ready verbose o).ending = .broken e ∧
      (runList s c .ready verbose o).stdout = "" := by
  cases hl : (listing s o).result with
  | ok l =>
    cases htext : rendered c.output o (sortPackages o.sortKey l.packages) with
    | ok text => exact .inl (prints_of_rendered hl htext).1
    | error e =>
      have hbreaks : Breaks s c o e (runList s c .ready verbose o) := breaks_of_rendered hl htext
      refine .inr (.inr ⟨e, fun d hd => ?_, hbreaks.ending, hbreaks.stdout⟩)
      exact rendered_ne_diagnosed _ _ _ d (hd ▸ htext)
  | error e =>
    cases e with
    | diagnosed d => exact .inr (.inl ⟨d, reports_of_diagnosed hl⟩)
    | faults fs => exact .inr (.inr ⟨.faults fs, by simp, by simp [runList, hl]⟩)
    | breakdown b => exact .inr (.inr ⟨.breakdown b, by simp, by simp [runList, hl]⟩)

theorem exists_listing {ps : List Package} (h : Lists s o ps) :
    ∃ l, (listing s o).result = .ok l ∧ l.packages = ps := by
  obtain ⟨usage, w, hw, hps⟩ := h
  obtain ⟨e, he⟩ := environmentOf_of_list hps
  exact ⟨⟨e, ps⟩, listing_eq_ok_iff.mpr ⟨usage, w, hw, he, hps⟩, rfl⟩

end

/-- **All or nothing.** A command is run that lists packages, and its output can be written. With
exit code 0 it has written a listing as a whole (`Prints`), and with any other it has written
nothing. Whenever the options list packages that can be rendered, these are written; if they cannot
be rendered, the run breaks down when the environment is named already. Every diagnosis is reported
with exit code 1, and none gets away. -/
theorem command_prints_all_or_nothing {s : Surroundings} {arguments : List String} {verbose : Bool}
    {o : ListOptions} (h : Invocation.read s arguments = .list verbose o) (c : Consoles) :
    ((run s c .ready arguments).exit = 0 → Prints s c o (run s c .ready arguments)) ∧
    ((run s c .ready arguments).exit ≠ 0 → (run s c .ready arguments).stdout = "") ∧
    (∀ ps text, Lists s o ps → Renders c.output o (sortPackages o.sortKey ps) text →
      (run s c .ready arguments).exit = 0 ∧ (run s c .ready arguments).stdout = text) ∧
    (∀ ps e, Lists s o ps → rendered c.output o (sortPackages o.sortKey ps) = .error e →
      Breaks s c o e (run s c .ready arguments)) ∧
    (∀ d, FailsWith s o d → Reports c d (run s c .ready arguments)) ∧
    ∀ d, (run s c .ready arguments).ending ≠ .broken (.diagnosed d) := by
  have hrun : run s c .ready arguments = runList s c .ready verbose o := by
    unfold run
    rw [h]
  rw [hrun]
  have hcases := runList_cases s c verbose o
  refine ⟨fun hexit => ?_, fun hexit => ?_, fun ps text hps htext => ?_, fun ps e hps he => ?_,
    fun d hd => reports_of_diagnosed (listing_eq_diagnosed_iff.mpr hd), fun d hd => ?_⟩
  · rcases hcases with hprints | ⟨d, hreports⟩ | ⟨e, -, hending, -⟩
    · exact hprints
    · rw [Outcome.exit, hreports.ending] at hexit
      cases hexit
    · rw [Outcome.exit, hending] at hexit
      cases hexit
  · rcases hcases with hprints | ⟨d, hreports⟩ | ⟨e, -, -, hout⟩
    · rw [Outcome.exit, hprints.ending] at hexit
      exact absurd rfl hexit
    · exact hreports.stdout
    · exact hout
  · obtain ⟨l, hl, rfl⟩ := exists_listing hps
    obtain ⟨hprints, hout⟩ : Prints s c o (runList s c .ready verbose o) ∧ _ :=
      prints_of_rendered hl (rendered_eq_ok_iff.mpr htext)
    exact ⟨by rw [Outcome.exit, hprints.ending], hout⟩
  · obtain ⟨l, hl, rfl⟩ := exists_listing hps
    exact breaks_of_rendered hl he
  · rcases hcases with hprints | ⟨d', hreports⟩ | ⟨e, hne, hending, -⟩
    · rw [hprints.ending] at hd
      cases hd
    · rw [hreports.ending] at hd
      cases hd
    · rw [hending] at hd
      exact hne d (Ending.broken.inj hd)

/-! ### A project that is printed -/

/-- Arguments that ask for the packages of a project in JSON. -/
def projectArguments : List String :=
  ["list", "--json", "--platform", "linux-64", "--no-install", "--manifest-path", "/pixi.toml"]

/-- The options that they stand for. -/
def projectOptions : ListOptions where
  pattern := none
  platform := some "linux-64"
  json := true
  jsonPretty := false
  sortKey := .name
  environment := none
  explicitOnly := false
  frozen := false
  locked := false
  noInstall := true
  manifestPath := some ⟨.top, ["pixi.toml"]⟩

theorem locates_project : Locates (project lockContent) projectOptions .update openedProject := by
  have hfile : (projectTree lockContent).isFile? ⟨.top, ["pixi.toml"]⟩ = .ok true := by
    rw [FileTree.isFile?, FileTree.find_top_file rfl (by decide) (by decide) rfl]
    rfl
  refine ⟨rfl, ?_⟩
  unfold Workspace.locate
  rw [Traced.result_bind, Traced.result_ofAnswer]
  change (((projectTree lockContent).isFile? ⟨.top, ["pixi.toml"]⟩).mapError _ >>= _) = _
  rw [hfile]
  exact Workspace.open_project lockContent

theorem lists_project :
    Lists (project lockContent) projectOptions [ownPackage lockContent.size] := by
  refine ⟨.update, openedProject, locates_project, ?_⟩
  obtain ⟨f, hread, hdigest⟩ := Workspace.readable_project
  have hlock : (Workspace.lockFile (project lockContent)).outcome openedProject = .ok f := by
    rw [Workspace.outcome_lockFile]
    change (LockFile.open (projectTree lockContent) ⟨.top, ["pixi.lock"]⟩).result = .ok f
    change (LockFile.open (projectTree lockContent) ⟨.top, ["pixi.lock"]⟩).result.toOption =
      some f at hread
    cases hopen : (LockFile.open (projectTree lockContent) ⟨.top, ["pixi.lock"]⟩).result with
    | error e =>
      rw [hopen] at hread
      cases hread
    | ok g =>
      rw [hopen] at hread
      exact congrArg Except.ok (Option.some.inj hread)
  -- The lock file is as it is where it was read before, and all else does without it.
  obtain ⟨sel, all, hsel, hmissing, hall, hkept⟩ :=
    list_eq_ok_iff.mp (Workspace.list_project lockContent hdigest)
  obtain ⟨hpattern, he, hplatform, hsame, hrecords, hexplicit⟩ :=
    (Workspace.select_eq_ok_iff ..).mp hsel
  obtain rfl := Except.ok.inj hsame
  exact list_eq_ok_iff.mpr ⟨sel, all, (Workspace.select_eq_ok_iff ..).mpr
    ⟨hpattern, he, hplatform, hlock, hrecords, hexplicit⟩, hmissing, hall, hkept⟩

/-- The packages of a project are written in JSON. -/
theorem printed_project :
    Invocation.read (project lockContent) projectArguments = .list false projectOptions ∧
    ∃ json, (run (project lockContent) ⟨80, 80⟩ .ready projectArguments).exit = 0 ∧
      packagesJson false [ownPackage 124] = .ok json ∧
      (run (project lockContent) ⟨80, 80⟩ .ready projectArguments).stdout = json ++ "\n" := by
  have hread : Invocation.read (project lockContent) projectArguments =
      .list false projectOptions := by decide +kernel
  have hsize : lockContent.size = 124 := by decide +kernel
  obtain ⟨json, hjson⟩ : ∃ json, packagesJson false [ownPackage lockContent.size] = .ok json :=
    ⟨_, if_neg (by decide +kernel)⟩
  have hrenders : Renders 80 projectOptions
      (sortPackages .name [ownPackage lockContent.size]) (json ++ "\n") := by
    rw [sortPackages, List.mergeSort_singleton]
    exact .compact rfl rfl hjson
  obtain ⟨-, -, hlists, -, -, -⟩ := command_prints_all_or_nothing hread ⟨80, 80⟩
  obtain ⟨hexit, hout⟩ := hlists _ _ lists_project hrenders
  rw [hsize] at hjson
  exact ⟨hread, json, hexit, hjson, hout⟩

/-- A name of seventy letters. -/
def longName : String := String.ofList (List.replicate 70 'x')

/-- On a console of eighty cells, no line names an environment whose name is long or rings. -/
theorem environment_is_misnamed :
    environmentLines 80 { projectOptions with json := false } ⟨longName, [], false⟩ =
      ["Environment: ", longName] ∧
    environmentLines 80 { projectOptions with json := false } ⟨"d\x07cs", [], false⟩ =
      ["Environment: dcs"] := by
  decide +kernel

end Command

end PinLedger

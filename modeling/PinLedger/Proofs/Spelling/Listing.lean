/-
# A listing does not see how names are spelled

The names that a manifest declares, the names of locked records, and the directories of the wheel
cache meet in canonical form only. So if names are spelled otherwise in the manifest document and in
the lock document of a workspace, every query ends as it did: with the same packages, or with the
same failure (`list_respelled`).

Key definitions: `Selection.Renamed`, `Workspace.ReadFrom`.
Key theorems: `ofRecords_renamed`, `Selection.Renamed.list_eq`, `Workspace.readFrom_of_open`,
`Workspace.select_respelled`, `list_respelled`.
-/
import PinLedger.Proofs.Listing.Explicit
import PinLedger.Proofs.Spelling.LockFile
import PinLedger.Proofs.Spelling.Manifest
import PinLedger.Proofs.Workspace.Snapshot

namespace PinLedger

open Document (Value Fields)
open Outcome

/-! ### Packages of records -/

theorem ofRecord_renamed {r r' : Record} (h : Record.Renamed r r') (t : FileTree)
    (explicit : List String) (root : Option Path) (index : Option WheelIndex) :
    Package.ofRecord t explicit root index r = Package.ofRecord t explicit root index r' := by
  obtain ⟨⟨name, rfl⟩, hname⟩ := h
  unfold Package.ofRecord
  rw [← hname]
  cases r <;> rfl

/-- The packages of records do not depend on how their names are spelled. -/
theorem ofRecords_renamed {records records' : List Record}
    (h : List.Forall₂ Record.Renamed records records') (t : FileTree) (explicit : List String)
    (root : Option Path) (index : Option WheelIndex) :
    Package.ofRecords t explicit root index records =
      Package.ofRecords t explicit root index records' := by
  induction h generalizing index with
  | nil => rfl
  | cons hr _ ih => simp only [Package.ofRecords, ofRecord_renamed hr, ih]

theorem map_normalizedName_renamed {records records' : List Record}
    (h : List.Forall₂ Record.Renamed records records') :
    records.map Record.normalizedName = records'.map Record.normalizedName := by
  induction h with
  | nil => rfl
  | cons hr _ ih => rw [List.map_cons, List.map_cons, hr.normalizedName, ih]

theorem any_isPypi_renamed {records records' : List Record}
    (h : List.Forall₂ Record.Renamed records records') :
    records.any Record.isPypi = records'.any Record.isPypi := by
  induction h with
  | nil => rfl
  | cons hr _ ih =>
    have hhead : Record.isPypi _ = Record.isPypi _ := congrArg (· == Kind.pypi) hr.kind
    rw [List.any_cons, List.any_cons, hhead, ih]

/-! ### Selections -/

/-- Selections that differ at most in how the names of their records are spelled. -/
structure Selection.Renamed (sel sel' : Selection) : Prop where
  pattern : sel.pattern = sel'.pattern
  environment : sel.environment = sel'.environment
  platform : sel.platform = sel'.platform
  root : sel.lock.root = sel'.lock.root
  records : List.Forall₂ Record.Renamed sel.records sel'.records
  explicit : sel.explicit = sel'.explicit

/-- What is listed of a selection does not depend on how names are spelled. -/
theorem Selection.Renamed.list_eq {sel sel' : Selection} (h : Selection.Renamed sel sel')
    (s : Surroundings) (q : Query) : sel.list s q = sel'.list s q := by
  have hmissing : sel.missing = sel'.missing := by
    unfold Selection.missing missingNames
    rw [map_normalizedName_renamed h.records, h.explicit]
  have hpackages : sel.packages s q.noInstall = sel'.packages s q.noInstall := by
    unfold Selection.packages indexFor
    simp only [any_isPypi_renamed h.records, ofRecords_renamed h.records, h.explicit, h.root]
  unfold Selection.list keptPackages
  rw [hmissing, hpackages, h.environment, h.platform, h.pattern]

/-! ### Workspaces -/

/-- The manifest and the lock file of a workspace are what is read from two documents. The lock file
may have been read before, or be read now. -/
structure Workspace.ReadFrom (s : Surroundings) (w : Workspace) (flavour : Flavour)
    (manifest : Value) (lock : LockDocument) : Prop where
  manifest : Manifest.ofDocument flavour manifest = .ok w.manifest
  lock : (Workspace.lockFile s).outcome w = (LockFile.ofDocument w.lockPath lock).result

namespace Workspace

variable {s s' : Surroundings} {w w' : Workspace}

/-- A workspace that was just opened is read from the documents in its files. -/
theorem readFrom_of_open {root : Path} (hopen : (Workspace.open s root).result = .ok w)
    (hthere : s.tree.exists? w.lockPath = .ok true) {content : Content}
    (hcontent : s.tree.read w.lockPath = .ok content) {d : LockDocument}
    (hdocument : LockFile.readDocument w.lockPath content = .ok d) :
    ∃ v, readToml s.tree (ManifestFile.pathIn root w.file.flavour) = .ok v ∧
      w.ReadFrom s w.file.flavour v d := by
  obtain ⟨hfile, -, hlock⟩ := open_eq_ok hopen
  obtain ⟨v, hv, hmanifest⟩ := ManifestFile.document_of_open hfile
  refine ⟨v, hv, hmanifest, ?_⟩
  rw [outcome_lockFile, hlock]
  unfold LockFile.open
  simp only [Traced.result_bind, Traced.result_ofAnswer, Traced.result_ofExcept, hthere, hcontent,
    hdocument, Except.mapError, ok_bind, Bool.not_true, Bool.false_eq_true, if_false]

/-- The same is selected, but for the spelling of locked names. -/
theorem select_respelled (hmanifest : w.manifest = w'.manifest)
    (hlockPath : w.lockPath = w'.lockPath) (hsettings : s.settings = s'.settings)
    (hplatform : s.platform = s'.platform)
    (hthere : s.tree.exists? w.lockPath = s'.tree.exists? w.lockPath)
    (hlock : Related LockFile.RenamedFile ((lockFile s).outcome w) ((lockFile s').outcome w'))
    (q : Query) :
    Related Selection.Renamed ((select s q).outcome w) ((select s' q).outcome w') := by
  have henvironment : w.environmentOf s q.environment = w'.environmentOf s' q.environment := by
    unfold environmentOf environmentName Surroundings.setting?
    rw [hmanifest, hsettings]
  have hplatforms : ∀ e, (platformsOf s e).outcome w = (platformsOf s' e).outcome w' := by
    intro e
    have hlocked : (fun f => f.platforms e.name) <$> (lockFile s).outcome w =
        (fun f => f.platforms e.name) <$> (lockFile s').outcome w' :=
      (hlock.map (S := Eq) fun f f' hf => hf.platforms_eq e.name).eq
    rw [outcome_platformsOf, outcome_platformsOf, hlocked, hmanifest, ← hlockPath, hthere]
  have hbest : ∀ e, (platformOf s q e).outcome w = (platformOf s' q e).outcome w' := by
    intro e
    unfold platformOf
    cases q.platform with
    | some p => rfl
    | none => rw [outcome_bestPlatform, outcome_bestPlatform, hplatforms, hplatform]
  rw [outcome_select, outcome_select, henvironment, hmanifest]
  simp only [hbest]
  refine Related.bind_self _ fun pattern => ?_
  refine Related.bind_self _ fun e => ?_
  refine Related.bind_self _ fun platform => ?_
  refine hlock.bind fun f f' hf => ?_
  refine (LockFile.packages_renamed hf e.name platform).bind fun rs rs' hrs => ?_
  exact .ok ⟨rfl, rfl, rfl, hf.root_eq, hrs, rfl⟩

end Workspace

/-- **How names are spelled does not matter.** Two manifest documents that differ in the spelling of
names are read as one manifest. If moreover the lock documents differ in the spelling of names only,
then in workspaces that are read from them, among files of the same names and sizes, every query
has the same outcome: the same packages, or the same failure. -/
theorem list_respelled {flavour : Flavour} {v v' : Value} (hv : ManifestRespelled flavour v v')
    {d d' : LockDocument} (hd : LockFile.RenamedDocument d d') :
    Manifest.ofDocument flavour v = Manifest.ofDocument flavour v' ∧
      ∀ {s s' : Surroundings} {w w' : Workspace}, s.outline = s'.outline → w.root = w'.root →
        w.ReadFrom s flavour v d → w'.ReadFrom s' flavour v' d' →
        ∀ q : Query, (Workspace.list s q).outcome w = (Workspace.list s' q).outcome w' := by
  have hread := Manifest.ofDocument_respelled hv
  refine ⟨hread, fun {s s' w w'} houtline hroot hw hw' q => ?_⟩
  have hmanifest : w.manifest = w'.manifest :=
    Except.ok.inj (hw.manifest.symm.trans (hread.trans hw'.manifest))
  have hlockPath : w.lockPath = w'.lockPath := by
    rw [Workspace.lockPath, hroot]
    rfl
  obtain ⟨htree, hsettings, hplatform⟩ := Surroundings.mk.inj houtline
  have hthere : s.tree.exists? w.lockPath = s'.tree.exists? w.lockPath := by
    rw [← s.tree.exists?_outline, htree, s'.tree.exists?_outline]
  have hlock : Related LockFile.RenamedFile ((Workspace.lockFile s).outcome w)
      ((Workspace.lockFile s').outcome w') := by
    rw [hw.lock, hw'.lock, ← hlockPath]
    exact LockFile.ofDocument_renamed w.lockPath hd
  have hselect := Workspace.select_respelled hmanifest hlockPath hsettings hplatform hthere hlock q
  rw [Workspace.outcome_list, Workspace.outcome_list]
  refine hselect.bind_eq fun sel sel' hsel => ?_
  rw [hsel.list_eq s, ← sel'.list_outline s, houtline, sel'.list_outline]

/-- A project file that requires a package from either ecosystem. -/
def spelledFile (conda requirement : String) : Value :=
  .ofFields [("project", .ofFields [("dependencies", .list [.text requirement])]),
    ("tool", .ofFields [("pixi", .ofFields [("dependencies", .ofFields [(conda, .text "*")])])])]

theorem manifestRespelled_spelledFile {conda conda' requirement requirement' : String}
    (hconda : Kind.conda.SameName conda conda')
    (hrequirement : Requirement.Respelled requirement requirement') :
    ManifestRespelled .project (spelledFile conda requirement)
      (spelledFile conda' requirement') := by
  have hkeys : KeysRespelled .conda (.ofFields [(conda, .text "*")])
      (.ofFields [(conda', .text "*")]) :=
    .table (.cons ⟨.inr ⟨conda, conda', rfl, rfl, hconda⟩, rfl⟩ .nil)
  have hmanifest : Within ManifestPart
      (.ofFields [("dependencies", .ofFields [(conda, .text "*")])])
      (.ofFields [("dependencies", .ofFields [(conda', .text "*")])]) :=
    .table (.cons ⟨rfl, .inr ⟨"dependencies", rfl, .inl (.inl ⟨.conda, by decide, hkeys⟩)⟩⟩ .nil)
  have hlist : RequirementsRespelled (.list [.text requirement]) (.list [.text requirement']) :=
    .list (.cons (.inr ⟨_, _, rfl, rfl, hrequirement⟩) .nil)
  refine .table (.cons ⟨rfl, .inr ⟨"project", rfl, .inl ⟨rfl, ?_⟩⟩⟩
    (.cons ⟨rfl, .inr ⟨"tool", rfl, .inr ⟨rfl, ?_⟩⟩⟩ .nil))
  · exact .table (.cons ⟨rfl, .inr ⟨"dependencies", rfl, .inl ⟨rfl, hlist⟩⟩⟩ .nil)
  · exact .table (.cons ⟨rfl, .inr ⟨"pixi", rfl, rfl, hmanifest⟩⟩ .nil)

/-- An entry of a package with a name. -/
def spelledEntry (kind : Kind) (location name : String) : Fields :=
  [(kind.word, .text location), ("name", .text name), ("version", .text "1")]

theorem renamed_spelledEntry {kind : Kind} {name name' : String} (h : kind.SameName name name')
    (location : String) :
    LockFile.Renamed (spelledEntry kind location name) (spelledEntry kind location name') := by
  have hkey : (Entry.key (spelledEntry kind location name)).kind = kind.word := by
    cases kind <;> rfl
  have hget : ∀ n, (spelledEntry kind location n).get? "name" = some (.text n) := by
    intro n
    cases kind <;> rfl
  refine .named hkey ⟨hget name, hget name', fun key hne => ?_⟩ h
  have hname : (key == "name") = false := by simpa using hne
  simp only [spelledEntry, Fields.get?, List.lookup_cons, hname]

/-- A lock document that locks a package from either ecosystem. -/
def spelledDocument (conda pypi : String) : LockDocument where
  version := 6
  environments := [(defaultName,
    [("linux-64", [[("conda", .text "./n")], [("pypi", .text "https://p.org/t")]])])]
  packages := [spelledEntry .conda "./n" conda, spelledEntry .pypi "https://p.org/t" pypi]

theorem renamedDocument_spelledDocument {conda conda' pypi pypi' : String}
    (hconda : Kind.conda.SameName conda conda') (hpypi : Kind.pypi.SameName pypi pypi') :
    LockFile.RenamedDocument (spelledDocument conda pypi) (spelledDocument conda' pypi') := by
  have hentries := List.Forall₂.cons (renamed_spelledEntry hconda "./n")
    (.cons (renamed_spelledEntry hpypi "https://p.org/t") .nil)
  exact ⟨rfl, rfl, hentries⟩

/-- The workspace that is read from such documents. -/
def spelledWorkspace (conda pypi : String) : Workspace where
  root := ⟨.here, []⟩
  file := ⟨.project, "./pyproject.toml", ⟨none, [],
    [(defaultName, ⟨defaultName, none, ⟨["numpy"], ["py-test"]⟩, []⟩)],
    [(defaultName, .default)]⟩⟩
  lock := some ⟨⟨.here, ["pixi.lock"]⟩, spelledDocument conda pypi,
    [(⟨"conda", "./n"⟩, .source ⟨conda, "1", "", none, "./n", []⟩),
      (⟨"pypi", "https://p.org/t"⟩, .pypi ⟨pypi, "1", none, false, .url "https://p.org/t", []⟩)]⟩

/-- Asks for the explicit packages for one platform. -/
def spelledQuery : Query :=
  { platform := some "linux-64", explicitOnly := true, noInstall := true, usage := .frozen }

theorem list_respelled_spelledWorkspace :
    ManifestRespelled .project (spelledFile "NumPy" "Py_Test >=1")
      (spelledFile " numpy" "py.TEST >=1") ∧
    LockFile.RenamedDocument (spelledDocument "NumPy" "py-test")
      (spelledDocument "NUMPY " "PY__TEST") ∧
    ∃ ps, ps ≠ [] ∧
      (Workspace.list bareSurroundings spelledQuery).outcome
        (spelledWorkspace "NumPy" "py-test") = .ok ps ∧
      (Workspace.list bareSurroundings spelledQuery).outcome
        (spelledWorkspace "NUMPY " "PY__TEST") = .ok ps := by
  have hrequirement : Requirement.Respelled "Py_Test >=1" "py.TEST >=1" :=
    ⟨"", "Py_Test", "py.TEST", " >=1", by decide, by decide, fun _ hc => absurd hc List.not_mem_nil,
      by decide +kernel, by decide +kernel, "py.TEST", by decide +kernel⟩
  have hfile := manifestRespelled_spelledFile (show Kind.conda.SameName "NumPy" " numpy" by
    decide +kernel) hrequirement
  have hdocument := renamedDocument_spelledDocument
    (show Kind.conda.SameName "NumPy" "NUMPY " by decide +kernel)
    (show Kind.pypi.SameName "py-test" "PY__TEST" by decide +kernel)
  have hread : (spelledWorkspace "NumPy" "py-test").ReadFrom bareSurroundings .project
      (spelledFile "NumPy" "Py_Test >=1") (spelledDocument "NumPy" "py-test") :=
    ⟨by decide +kernel, rfl⟩
  have hread' : (spelledWorkspace "NUMPY " "PY__TEST").ReadFrom bareSurroundings .project
      (spelledFile " numpy" "py.TEST >=1") (spelledDocument "NUMPY " "PY__TEST") :=
    ⟨by decide +kernel, rfl⟩
  have hroot : (spelledWorkspace "NumPy" "py-test").root =
      (spelledWorkspace "NUMPY " "PY__TEST").root := rfl
  have hsame := (list_respelled hfile hdocument).2 rfl hroot hread hread' spelledQuery
  have hlist : (Workspace.list bareSurroundings spelledQuery).outcome
      (spelledWorkspace "NumPy" "py-test") = .ok [
        ⟨"numpy", "1", some "", none, .conda, some "./n", true, false⟩,
        ⟨"py-test", "1", none, none, .pypi, some "https://p.org/t", true, false⟩] := by
    decide +kernel
  exact ⟨hfile, hdocument, _, List.cons_ne_nil _ _, hlist, hsame ▸ hlist⟩

end PinLedger

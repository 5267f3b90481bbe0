/-
# Which directories are workspaces

Opening a directory looks for the two manifest files and takes the first that counts. The way up
from a directory looks for them as well, on its own: it stops at the first directory with a file
that counts. Both take the same directories for workspaces, unless a manifest file is a link that
leads to a name that is too long: opening takes such a file for missing, and the way up breaks down.

Key definitions: `IsWorkspace`, `MeetsLongName`, `ProjectFileReads`, `IsPassed`.
Key theorems: `not_meetsLongName`, `isWorkspace_iff`, `holdsManifest_eq_true_iff`,
`holdsManifest_eq_false_iff`, `holdsManifest_eq_error_iff`, `firstRoot_eq_none_iff`,
`firstRoot_stops_iff`.
-/
import PinLedger.Proofs.Files.Fits
import PinLedger.Proofs.Manifest.Opening
import PinLedger.Proofs.Manifest.Undiagnosed

namespace PinLedger

open Document (Value)
open Outcome ManifestRead

/-! ### What counts as a workspace -/

/-- Opening a manifest in a directory does not end in there being none. -/
def IsWorkspace (t : FileTree) (dir : Path) : Prop :=
  ∀ text, (ManifestFile.open t dir).result ≠ .error (.diagnosed (.manifestMissing text))

/-- Asking for the manifest files of a directory, one after the other until one is found, meets a
name that is too long. -/
def MeetsLongName (t : FileTree) (dir : Path) : Prop :=
  t.find (ManifestFile.pathIn dir .own) = .error .nameTooLong ∨
    ManifestFile.isThere t dir .own = false ∧
      t.find (ManifestFile.pathIn dir .project) = .error .nameTooLong

/-- The way up goes past a directory: it is no workspace, and no name is too long. -/
def IsPassed (t : FileTree) (dir : Path) : Prop := ¬ IsWorkspace t dir ∧ ¬ MeetsLongName t dir

/-- A project file, if there is one, is a document whose `tool` is a table or missing. -/
def ProjectFileReads (t : FileTree) (dir : Path) : Prop :=
  ManifestFile.isThere t dir .project = true →
    ∃ document, readToml t (ManifestFile.pathIn dir .project) = .ok document ∧
      ∀ tool, document.get? "tool" = some tool → ∃ entries, tool = .table entries

/-- A directory has a project file with a manifest in it. -/
def ProjectHoldsManifest (t : FileTree) (dir : Path) : Prop :=
  ManifestFile.isThere t dir .project = true ∧
    ∃ document, readToml t (ManifestFile.pathIn dir .project) = .ok document ∧
      Manifest.isInProject document = .ok true

variable {t : FileTree} {dir : Path}

/-- Where all names fit, no manifest file leads to a name that is too long. -/
theorem not_meetsLongName (ht : t.Fits) (hdir : dir.Fits) : ¬ MeetsLongName t dir := by
  have hshort : ∀ f, t.find (ManifestFile.pathIn dir f) ≠ .error .nameTooLong := by
    intro f hlong
    have hfits : PinLedger.Fits f.fileName := by cases f <;> decide
    have hfind := FileTree.find_fits ht (hdir.child hfits)
    rw [ManifestFile.pathIn] at hlong
    rw [hlong] at hfind
    exact hfind rfl
  rintro (hown | ⟨-, hproject⟩)
  · exact hshort .own hown
  · exact hshort .project hproject

theorem readToml_eq_table {path : Path} {document : Value} (h : readToml t path = .ok document) :
    ∃ entries, document = .table entries := by
  unfold readToml at h
  split at h
  · cases h
  · split at h
    · cases h
    · split at h
      · cases h
      · cases h
      · next document' hparse =>
        obtain rfl := Except.ok.inj h
        obtain ⟨draft, -, rfl⟩ := Outcome.map_eq_ok_iff.mp hparse
        exact ⟨_, rfl⟩

/-- Whether a project file holds a manifest is always known. -/
theorem ProjectFileReads.exists_isInProject (h : ProjectFileReads t dir)
    (hthere : ManifestFile.isThere t dir .project = true) :
    ∃ document b, readToml t (ManifestFile.pathIn dir .project) = .ok document ∧
      Manifest.isInProject document = .ok b := by
  obtain ⟨document, hread, htool⟩ := h hthere
  obtain ⟨entries, rfl⟩ := readToml_eq_table hread
  unfold Manifest.isInProject
  cases hget : (Value.table entries).get? "tool" with
  | none => exact ⟨_, false, hread, by simp [Value.ask, hget]; rfl⟩
  | some tool =>
    obtain ⟨tools, rfl⟩ := htool tool hget
    exact ⟨_, _, hread, by simp [Value.ask, hget]; rfl⟩

/-- A directory is a workspace if it has a manifest file of its own, or a project file with a
manifest in it. -/
theorem isWorkspace_iff (hexists : FileTree.holds (t.exists? dir) = true)
    (hreads : ProjectFileReads t dir) : IsWorkspace t dir ↔
      ManifestFile.isThere t dir .own = true ∨ ProjectHoldsManifest t dir := by
  unfold IsWorkspace
  rw [ManifestFile.result_open, hexists, Bool.true_and, Bool.true_and]
  cases hown : ManifestFile.isThere t dir .own with
  | true =>
    rw [if_pos rfl, ManifestFile.result_openOwn]
    have hnever := (undiagnosed_readToml t (ManifestFile.pathIn dir .own)).bind fun document =>
      (Manifest.undiagnosed_ofTable document []).map fun m =>
        (⟨.own, ManifestFile.shownPath dir .own, m⟩ : ManifestFile)
    exact iff_of_true (fun text => hnever _) (.inl rfl)
  | false =>
    rw [if_neg Bool.false_ne_true]
    cases hproject : ManifestFile.isThere t dir .project with
    | false =>
      rw [if_neg Bool.false_ne_true]
      have hno : ¬ ProjectHoldsManifest t dir := fun h =>
        Bool.false_ne_true (hproject.symm.trans h.1)
      exact iff_of_false (fun h => h _ rfl) (by simpa using hno)
    | true =>
      obtain ⟨document, b, hread, hinside⟩ := hreads.exists_isInProject hproject
      rw [if_pos rfl, ManifestFile.result_openProject, hread, ok_bind, hinside, ok_bind]
      cases b with
      | false =>
        have hno : ¬ ProjectHoldsManifest t dir := by
          rintro ⟨-, document', hread', hinside'⟩
          obtain rfl := Except.ok.inj (hread.symm.trans hread')
          cases hinside.symm.trans hinside'
        exact iff_of_false (fun h => h _ rfl) (by simpa using hno)
      | true =>
        have hnever := Manifest.undiagnosed_ofProject document
        refine iff_of_true (fun text => ?_) (.inr ⟨hproject, document, hread, hinside⟩)
        cases hm : (Manifest.ofProject document).result with
        | ok m => exact nofun
        | error e => exact fun h => hnever _ (hm.trans (congrArg Except.error (Except.error.inj h)))

/-! ### The way up -/

theorem join_fileName (dir : Path) (f : Flavour) :
    dir.join (Path.ofText f.fileName) = ManifestFile.pathIn dir f := by
  have hname : Path.ofText f.fileName = ⟨.here, [f.fileName]⟩ := by cases f <;> decide
  rw [hname]
  rfl

theorem isFile?_of_long {p : Path} (h : t.find p = .error .nameTooLong) :
    t.isFile? p = .error ⟨.nameTooLong, p.text⟩ := by
  unfold FileTree.isFile?
  rw [h]
  rfl

theorem isFile?_of_ne {p : Path} (h : t.find p ≠ .error .nameTooLong) :
    t.isFile? p = .ok (FileTree.holds (t.isFile? p)) := by
  unfold FileTree.isFile? FileTree.ask
  split
  · rfl
  · next hlong => exact absurd hlong h
  · rfl

/-- Does a file of a flavour that is there hold a manifest? -/
def holdsInside (t : FileTree) (dir : Path) : Flavour → ManifestRead Bool
  | .own => .ok true
  | .project =>
    readToml t (ManifestFile.pathIn dir .project) >>= fun document => Manifest.isInProject document

theorem result_isManifestAt (t : FileTree) (dir : Path) (f : Flavour) :
    (isManifestAt t dir f.fileName).result =
      (Traced.ofAnswer (t.isFile? (ManifestFile.pathIn dir f))).result >>= fun there =>
        if there then holdsInside t dir f else .ok false := by
  unfold isManifestAt
  rw [join_fileName, Traced.result_bind]
  refine bind_congr fun there => ?_
  cases there with
  | false => rfl
  | true =>
    cases f with
    | own => rfl
    | project =>
      simp only [Bool.not_true, Bool.false_eq_true, if_false, if_true, Traced.result_ofExcept]
      rfl

/-- Asking a directory for its manifest files, step by step. -/
theorem result_holdsManifest (t : FileTree) (dir : Path) :
    (holdsManifest t dir manifestFileNames).result =
      (isManifestAt t dir Flavour.own.fileName).result >>= fun own =>
        if own then .ok true else (isManifestAt t dir Flavour.project.fileName).result := by
  unfold manifestFileNames holdsManifest
  rw [Traced.result_bind]
  refine bind_congr fun own => ?_
  cases own with
  | true => rfl
  | false =>
    rw [if_neg Bool.false_ne_true, if_neg Bool.false_ne_true]
    unfold holdsManifest
    rw [Traced.result_bind]
    cases (isManifestAt t dir Flavour.project.fileName).result with
    | error e => rfl
    | ok project => cases project <;> rfl

theorem result_isManifestAt_of_long {f : Flavour}
    (h : t.find (ManifestFile.pathIn dir f) = .error .nameTooLong) :
    (isManifestAt t dir f.fileName).result = .error (.breakdown (.file .nameTooLong)) := by
  rw [result_isManifestAt, isFile?_of_long h]
  rfl

theorem result_isManifestAt_of_ne {f : Flavour}
    (h : t.find (ManifestFile.pathIn dir f) ≠ .error .nameTooLong) :
    (isManifestAt t dir f.fileName).result =
      if ManifestFile.isThere t dir f then holdsInside t dir f else .ok false := by
  rw [result_isManifestAt, isFile?_of_ne h]
  rfl

/-- A name that is too long breaks the way up down. -/
theorem holdsManifest_of_long (h : MeetsLongName t dir) :
    (holdsManifest t dir manifestFileNames).result = .error (.breakdown (.file .nameTooLong)) := by
  rw [result_holdsManifest]
  by_cases hlong : t.find (ManifestFile.pathIn dir .own) = .error .nameTooLong
  · rw [result_isManifestAt_of_long hlong]
    rfl
  · obtain ⟨hown, hproject⟩ := h.resolve_left hlong
    rw [result_isManifestAt_of_ne hlong, hown, result_isManifestAt_of_long hproject]
    rfl

/-- Where no name is too long, the way up stops at a workspace and nowhere else. -/
theorem holdsManifest_of_short (hexists : FileTree.holds (t.exists? dir) = true)
    (hreads : ProjectFileReads t dir) (h : ¬ MeetsLongName t dir) :
    ∃ b, (holdsManifest t dir manifestFileNames).result = .ok b ∧
      (b = true ↔ IsWorkspace t dir) := by
  obtain ⟨hlong, hboth⟩ := not_or.mp h
  rw [isWorkspace_iff hexists hreads, result_holdsManifest, result_isManifestAt_of_ne hlong]
  cases hown : ManifestFile.isThere t dir .own with
  | true => exact ⟨true, rfl, by simp⟩
  | false =>
    have hshort : t.find (ManifestFile.pathIn dir .project) ≠ .error .nameTooLong :=
      fun hproject => hboth ⟨hown, hproject⟩
    rw [result_isManifestAt_of_ne hshort]
    cases hproject : ManifestFile.isThere t dir .project with
    | false =>
      refine ⟨false, rfl, ?_⟩
      simp [ProjectHoldsManifest, hproject]
    | true =>
      obtain ⟨document, b, hread, hinside⟩ := hreads.exists_isInProject hproject
      have hresult : holdsInside t dir .project = .ok b := by
        unfold holdsInside
        rw [hread, ok_bind, hinside]
      refine ⟨b, hresult, ?_⟩
      simp [ProjectHoldsManifest, hproject, hread, hinside]

section

variable (hexists : FileTree.holds (t.exists? dir) = true) (hreads : ProjectFileReads t dir)

include hexists hreads

theorem holdsManifest_eq_true_iff : (holdsManifest t dir manifestFileNames).result = .ok true ↔
    IsWorkspace t dir ∧ ¬ MeetsLongName t dir := by
  by_cases hlong : MeetsLongName t dir
  · simp [holdsManifest_of_long hlong, hlong]
  · obtain ⟨b, hb, hiff⟩ := holdsManifest_of_short hexists hreads hlong
    rw [hb, Except.ok.injEq, hiff]
    exact (and_iff_left hlong).symm

theorem holdsManifest_eq_false_iff : (holdsManifest t dir manifestFileNames).result = .ok false ↔
    IsPassed t dir := by
  by_cases hlong : MeetsLongName t dir
  · simp [holdsManifest_of_long hlong, hlong, IsPassed]
  · obtain ⟨b, hb, hiff⟩ := holdsManifest_of_short hexists hreads hlong
    rw [hb, Except.ok.injEq, ← Bool.not_eq_true, hiff]
    exact (and_iff_left hlong).symm

theorem holdsManifest_eq_error_iff {e : Failure} :
    (holdsManifest t dir manifestFileNames).result = .error e ↔
      e = .breakdown (.file .nameTooLong) ∧ MeetsLongName t dir := by
  by_cases hlong : MeetsLongName t dir
  · simp [holdsManifest_of_long hlong, hlong, eq_comm]
  · obtain ⟨b, hb, -⟩ := holdsManifest_of_short hexists hreads hlong
    simp [hb, hlong]

end

/-! ### The first directory on the way -/

section

variable {names : List String} {dirs : List Path}

theorem result_firstRoot_cons (names : List String) (dir : Path) (dirs : List Path) :
    (firstRoot t names (dir :: dirs)).result = (holdsManifest t dir names).result >>= fun b =>
      if b then .ok (some dir) else (firstRoot t names dirs).result := by
  unfold firstRoot
  rw [Traced.result_bind]
  refine bind_congr fun b => ?_
  cases b with
  | true => rfl
  | false =>
    rw [if_neg Bool.false_ne_true, if_neg Bool.false_ne_true]
    cases dirs <;> rfl

theorem firstRoot_eq_none_iff : (firstRoot t names dirs).result = .ok none ↔
    ∀ c ∈ dirs, (holdsManifest t c names).result = .ok false := by
  induction dirs with
  | nil => simp [firstRoot]
  | cons dir dirs ih =>
    rw [result_firstRoot_cons, bind_eq_ok_iff, List.forall_mem_cons, ← ih]
    simp [Bool.exists_bool]

/-- The way up stops at the first directory that does not answer with no. -/
theorem firstRoot_stops_iff {x : Except Failure (Option Path)} (hx : x ≠ .ok none) :
    (firstRoot t names dirs).result = x ↔ ∃ below c above, dirs = below ++ c :: above ∧
      (holdsManifest t c names).result ≠ .ok false ∧
      (fun _ => some c) <$> (holdsManifest t c names).result = x ∧
      ∀ b ∈ below, (holdsManifest t b names).result = .ok false := by
  induction dirs with
  | nil => simpa [firstRoot] using hx.symm
  | cons dir dirs ih =>
    rw [result_firstRoot_cons]
    constructor
    · intro hresult
      by_cases hdir : (holdsManifest t dir names).result = .ok false
      · rw [hdir] at hresult
        obtain ⟨below, c, above, rfl, hno, hc, hbelow⟩ := ih.mp hresult
        exact ⟨dir :: below, c, above, rfl, hno, hc, List.forall_mem_cons.mpr ⟨hdir, hbelow⟩⟩
      · refine ⟨[], dir, dirs, rfl, hdir, ?_, by simp⟩
        rw [← hresult]
        cases hb : (holdsManifest t dir names).result with
        | error e => rfl
        | ok b =>
          cases b with
          | true => rfl
          | false => exact absurd hb hdir
    · rintro ⟨below, c, above, hdirs, hno, hc, hbelow⟩
      cases below with
      | nil =>
        obtain ⟨rfl, rfl⟩ := List.cons.inj hdirs
        rw [← hc]
        cases hb : (holdsManifest t dir names).result with
        | error e => rfl
        | ok b =>
          cases b with
          | true => rfl
          | false => exact absurd hb hno
      | cons first below =>
        obtain ⟨rfl, rfl⟩ := List.cons.inj hdirs
        obtain ⟨hfirst, hbelow⟩ := List.forall_mem_cons.mp hbelow
        rw [hfirst]
        exact ih.mpr ⟨below, c, above, rfl, hno, hc, hbelow⟩

end

end PinLedger

/-
# What opening a manifest file ends in

Opening a manifest file runs through a few steps: the file is read as a document, the document is
asked whether it holds a manifest, and the manifest is read from it. What the run ends in is said
here once for each flavour, and once for the search through both. What was opened comes from the
document in the file of its flavour, and so does the manifest of a workspace.

Key definitions: `Manifest.ofDocument`, `ManifestFile.IsOpened`.
Key theorems: `ManifestFile.result_openOwn`, `ManifestFile.result_openProject`,
`ManifestFile.result_open`, `ManifestFile.isOpened_open`, `Workspace.open_eq_ok`.
-/
import PinLedger.Proofs.Outcome
import PinLedger.Workspace

namespace PinLedger

open Document (Value)
open Outcome

/-- Reads a manifest from the document of a flavour. -/
def Manifest.ofDocument (flavour : Flavour) (document : Value) : Except Failure Manifest :=
  match flavour with
  | .own => Manifest.ofTable document []
  | .project => (Manifest.ofProject document).result

namespace ManifestFile

section

variable (t : FileTree) (root : Path)

theorem result_openOwn : (openOwn t root).result =
    readToml t (pathIn root .own) >>= fun document =>
      (fun m => ⟨.own, shownPath root .own, m⟩) <$> Manifest.ofTable document [] := by
  unfold openOwn
  simp only [Traced.result_bind, Traced.result_ofExcept]
  refine bind_congr fun document => ?_
  cases Manifest.ofTable document [] <;> rfl

theorem result_openProject : (openProject t root).result =
    readToml t (pathIn root .project) >>= fun document =>
      Manifest.isInProject document >>= fun inside =>
        if inside then
          (fun m => some ⟨.project, shownPath root .project, m⟩) <$>
            (Manifest.ofProject document).result
        else .ok none := by
  unfold openProject
  simp only [Traced.result_bind, Traced.result_ofExcept]
  refine bind_congr fun document => bind_congr fun inside => ?_
  cases inside with
  | false => rfl
  | true =>
    simp only [if_true, Traced.result_bind]
    cases (Manifest.ofProject document).result <;> rfl

/-- What the search through both flavours ends in. A file of its own goes first. -/
theorem result_open : («open» t root).result =
    if FileTree.holds (t.exists? root) && isThere t root .own then (openOwn t root).result
    else if FileTree.holds (t.exists? root) && isThere t root .project then
      (openProject t root).result >>= fun found =>
        match found with
        | some file => .ok file
        | none => .error (.diagnosed (.manifestMissing root.text))
    else .error (.diagnosed (.manifestMissing root.text)) := by
  unfold «open»
  cases FileTree.holds (t.exists? root) with
  | false => rfl
  | true =>
    cases isThere t root .own with
    | true => simp
    | false =>
      cases isThere t root .project with
      | false => rfl
      | true =>
        simp only [Bool.not_true, Bool.false_eq_true, if_false, Bool.and_self, Bool.true_and,
          if_true, Traced.result_bind]
        refine bind_congr fun found => ?_
        cases found <;> rfl

end

variable {t : FileTree} {root : Path} {file : ManifestFile}

/-- The manifest of a file is read from the document in the file of a flavour. -/
structure IsOpened (t : FileTree) (root : Path) (f : Flavour) (file : ManifestFile) : Prop where
  flavour : file.flavour = f
  document : ∃ v, readToml t (pathIn root f) = .ok v ∧ Manifest.ofDocument f v = .ok file.manifest

theorem isOpened_openOwn (h : (openOwn t root).result = .ok file) : IsOpened t root .own file := by
  rw [result_openOwn] at h
  obtain ⟨v, hv, h⟩ := bind_eq_ok_iff.mp h
  obtain ⟨m, hm, rfl⟩ := map_eq_ok_iff.mp h
  exact ⟨rfl, v, hv, hm⟩

theorem isOpened_openProject (h : (openProject t root).result = .ok (some file)) :
    IsOpened t root .project file := by
  rw [result_openProject] at h
  simp only [bind_eq_ok_iff] at h
  obtain ⟨v, hv, inside, -, h⟩ := h
  split at h
  · obtain ⟨m, hm, hfile⟩ := map_eq_ok_iff.mp h
    obtain rfl := Option.some.inj hfile
    exact ⟨rfl, v, hv, hm⟩
  · cases h

/-- A manifest file of its own goes first. -/
theorem isOpened_open (h : («open» t root).result = .ok file) :
    IsOpened t root (if isThere t root .own then .own else .project) file := by
  rw [result_open] at h
  split at h
  · next hown =>
    rw [if_pos (Bool.and_eq_true_iff.mp hown).2]
    exact isOpened_openOwn h
  · next hown =>
    split at h
    · next hproject =>
      rw [(Bool.and_eq_true_iff.mp hproject).1, Bool.true_and] at hown
      rw [if_neg hown]
      obtain ⟨found, hfound, h⟩ := bind_eq_ok_iff.mp h
      cases found with
      | none => cases h
      | some f =>
        obtain rfl := Except.ok.inj h
        exact isOpened_openProject hfound
    · cases h

/-- The manifest of a directory is read from the document in a file. -/
theorem document_of_open (h : («open» t root).result = .ok file) :
    ∃ v, readToml t (pathIn root file.flavour) = .ok v ∧
      Manifest.ofDocument file.flavour v = .ok file.manifest := by
  have hopened := isOpened_open h
  rw [hopened.flavour]
  exact hopened.document

end ManifestFile

namespace Workspace

theorem result_open (s : Surroundings) (root : Path) : (Workspace.open s root).result =
    (ManifestFile.open s.tree root).result >>= fun file => .ok ⟨root, file, none⟩ := by
  unfold Workspace.open
  rw [Traced.result_bind]
  rfl

theorem open_eq_ok {s : Surroundings} {root : Path} {w : Workspace}
    (h : (Workspace.open s root).result = .ok w) :
    (ManifestFile.open s.tree root).result = .ok w.file ∧ w.root = root ∧ w.lock = none := by
  rw [result_open] at h
  obtain ⟨file, hfile, h⟩ := bind_eq_ok_iff.mp h
  obtain rfl := Except.ok.inj h
  exact ⟨hfile, rfl, rfl⟩

end Workspace

end PinLedger

/-
# Manifest files

A workspace directory holds its manifest in `pixi.toml`, or inside `pyproject.toml`; the first wins
where both are there. The workspace of a path is found by going up from it to the first directory
with a manifest file.

Key definitions: `ManifestFile`, `ManifestFile.open`, `projectRoot`.
-/
import PinLedger.Files.Resolve
import PinLedger.Manifest.Reader
import PinLedger.Toml.Reader

namespace PinLedger

open Document (Value)

/-- The file that a manifest is written in. -/
inductive Flavour where
  /-- A file of its own. -/
  | own
  /-- A part of a project file. -/
  | project
deriving DecidableEq, Repr, Inhabited

/-- The name of the file of a flavour. -/
def Flavour.fileName : Flavour → String
  | .own => "pixi.toml"
  | .project => "pyproject.toml"

/-- The names of manifest files, in the order they are looked for. -/
def manifestFileNames : List String := [Flavour.own.fileName, Flavour.project.fileName]

/-- A manifest and the file it was read from. -/
structure ManifestFile where
  flavour : Flavour
  path : String
  manifest : Manifest
deriving DecidableEq, Repr, Inhabited

/-- Reads a TOML document from a file. -/
def readToml (t : FileTree) (path : Path) : ManifestRead Value :=
  match t.read path with
  | .error fault => throw (.breakdown (.file fault.reason))
  | .ok content =>
    match Document.decodeUtf8? content.toOctets with
    | none => throw (.breakdown .encoding)
    | some text =>
      match Toml.parse text with
      | .error .malformed => throw (.breakdown .manifestSyntax)
      | .error .outOfRange => throw (.breakdown .outOfRange)
      | .ok document => return document

namespace ManifestFile

/-- The path of a manifest file as it is shown. -/
def shownPath (root : Path) (f : Flavour) : String := root.text ++ "/" ++ f.fileName

/-- The path of a manifest file. -/
def pathIn (root : Path) (f : Flavour) : Path := root.child f.fileName

/-- Is there a file of the flavour in a directory? -/
def isThere (t : FileTree) (root : Path) (f : Flavour) : Bool :=
  FileTree.holds (t.isFile? (pathIn root f))

/-- Reads the manifest from a file of its own. -/
def openOwn (t : FileTree) (root : Path) : Traced ManifestFile := do
  let document ← ofExcept (readToml t (pathIn root .own))
  return ⟨.own, shownPath root .own, ← ofExcept (Manifest.ofTable document [])⟩

/-- Reads the manifest from a project file, if it holds one. -/
def openProject (t : FileTree) (root : Path) : Traced (Option ManifestFile) := do
  let document ← ofExcept (readToml t (pathIn root .project))
  if ← ofExcept (Manifest.isInProject document) then
    return some ⟨.project, shownPath root .project, ← Manifest.ofProject document⟩
  return none

/-- Opens the manifest of a directory. -/
def «open» (t : FileTree) (root : Path) : Traced ManifestFile := do
  let missing := Diagnosis.manifestMissing root.text
  if !FileTree.holds (t.exists? root) then
    Traced.diagnose missing
  if isThere t root .own then
    return ← openOwn t root
  if isThere t root .project then
    if let some file ← openProject t root then
      return file
  Traced.diagnose missing

end ManifestFile

/-- Does a file count as the manifest file it is named for? A project file does if it holds a
manifest. -/
def isManifestAt (t : FileTree) (dir : Path) (name : String) : Traced Bool := do
  let path := dir.join (Path.ofText name)
  if !(← Traced.ofAnswer (t.isFile? path)) then
    return false
  if name = Flavour.project.fileName then
    return ← ofExcept (do Manifest.isInProject (← readToml t path))
  return true

/-- Does a directory hold one of the files? -/
def holdsManifest (t : FileTree) (dir : Path) : List String → Traced Bool
  | [] => return false
  | name :: names => do
    if ← isManifestAt t dir name then
      return true
    holdsManifest t dir names

/-- The first of some directories that holds one of the files. -/
def firstRoot (t : FileTree) (names : List String) : List Path → Traced (Option Path)
  | [] => return none
  | dir :: dirs => do
    if ← holdsManifest t dir names then
      return some dir
    firstRoot t names dirs

/-- The nearest directory at or above a path that holds one of the files. -/
def projectRoot (t : FileTree) (names : List String) (start : Path) : Traced (Option Path) := do
  let dir ← Traced.ofAnswer (t.resolve false start)
  if t.find dir matches .error .linkLoop then
    Traced.breakDown .linkLoop
  firstRoot t names dir.withParents

end PinLedger

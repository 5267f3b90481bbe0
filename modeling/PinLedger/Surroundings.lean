/-
# The surroundings of a run

A run sees a file tree, environment variables and the platform it is on. A variable that is empty
counts as not set.

The wheel cache holds the wheels that were unpacked before, one directory for each package. It is
given directly, or lies in the cache of the installer, which the package manager keeps in its own
cache unless it is told otherwise.

Key definitions: `Surroundings`, `Surroundings.setting?`, `Surroundings.expandHome`,
`Surroundings.wheelCache`.
-/
import PinLedger.Failure
import PinLedger.Text.Blank

namespace PinLedger

/-- What a run sees. -/
structure Surroundings where
  tree : FileTree
  settings : List (String × String)
  platform : String
deriving Inhabited

namespace Surroundings

/-- The value of a variable. -/
def setting? (s : Surroundings) (name : String) : Option String :=
  match s.settings.lookup name with
  | some "" => none
  | found => found

/-- The first of some variables that is set. -/
def firstSetting? (s : Surroundings) (names : List String) : Option String :=
  names.findSome? s.setting?

/-- The working directory. -/
def here (s : Surroundings) : Path := ⟨.top, s.tree.here⟩

/-- The home directory. -/
def home (s : Surroundings) : String :=
  let name := (s.settings.lookup "HOME").getD ""
  String.ofList (name.toList.reverse.dropWhile (· == '/')).reverse

/-- A path with the home directory for a `~` at its beginning. -/
def expandHome (s : Surroundings) (p : Path) : Except Failure Path :=
  match p.anchor, p.names with
  | .here, "~" :: rest => .ok ((Path.ofText (s.home ++ "/")).join ⟨.here, rest⟩)
  | .here, name :: _ => if name.startsWith "~" then .error (.breakdown .homeUnknown) else .ok p
  | _, _ => .ok p

/-- The directory for caches of the user. -/
def userCache (s : Surroundings) : Path :=
  match s.settings.lookup "XDG_CACHE_HOME" with
  | some dir =>
    let dir := Text.strip dir
    if dir = "" then Path.ofText (s.home ++ "/.cache") else Path.ofText dir
  | none => Path.ofText (s.home ++ "/.cache")

/-- The cache of the package manager. -/
def managerCache (s : Surroundings) : Except Failure Path :=
  match s.firstSetting? ["PIXI_CACHE_DIR", "RATTLER_CACHE_DIR"] with
  | some dir => s.expandHome (Path.ofText dir)
  | none => .ok ((s.userCache.child "rattler").child "cache")

/-- The cache of the installer. -/
def installerCache (s : Surroundings) : Except Failure Path :=
  match s.setting? "UV_CACHE_DIR" with
  | some dir => s.expandHome (Path.ofText dir)
  | none => (·.child "uv-cache") <$> s.managerCache

/-- The wheel cache. -/
def wheelCache (s : Surroundings) : Except Failure Path :=
  match s.setting? "LOCKVIEW_CACHE_DIR" with
  | some dir => s.expandHome (Path.ofText dir)
  | none => (fun p => (p.child "wheels-v5").child "pypi") <$> s.installerCache

end Surroundings

end PinLedger

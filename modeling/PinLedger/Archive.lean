/-
# Conda archive locations

The location of a conda archive is `<channel>/<subdir>/<name>-<version>-<build><extension>`. Each
part is read off by itself: the file name from its right end, as a name may hold dashes, the
subdirectory as the part before the file name, the channel as what is left of both.

Key definitions: `Archive.hasExtension`, `Archive.split?`, `Archive.subdir?`, `Archive.channel?`.
-/
import PinLedger.Location
import PinLedger.Text.Split

namespace PinLedger.Archive

/-- The endings of archive files. -/
def extensions : List String := [".conda", ".tar.bz2"]

/-- Does a location name an archive file? -/
def hasExtension (location : String) : Bool :=
  extensions.any fun e => e.toList.isSuffixOf location.toList

/-- The last part of a location; `\` separates like `/`. -/
def fileName (location : String) : List Char :=
  let cs := location.toList.map fun c => if c = '\\' then '/' else c
  match Text.cutLast? '/' cs with
  | some (_, last) => last
  | none => cs

/-- A file name without its archive ending. -/
def stem (name : List Char) : List Char :=
  match extensions.findSome? fun e => Text.dropEnd? e.toList name with
  | some s => s
  | none => name

/-- What an archive file name says. -/
structure Parts where
  name : String
  version : String
  build : String
deriving DecidableEq, Repr

/-- Reads name, version and build off the end of a location; the error is the file name that has
fewer than two dashes. -/
def split? (location : String) : Except String Parts :=
  let s := stem (fileName location)
  match Text.cutLast? '-' s with
  | none => .error (String.ofList s)
  | some (before, build) =>
    match Text.cutLast? '-' before with
    | none => .error (String.ofList s)
    | some (name, version) =>
      .ok ⟨String.ofList name, String.ofList version, String.ofList build⟩

/-- The part before the last one, if there is a further part before it. -/
def subdir? (location : String) : Option String :=
  match Text.cutLast? '/' location.toList with
  | none => none
  | some (before, _) => (Text.cutLast? '/' before).map fun p => String.ofList p.2

/-- A url without its last two parts. -/
def channel? (location : String) : Option String :=
  if isUrl location then
    let cs := location.toList
    let cut := match Text.cutLast? '/' cs with
      | none => cs
      | some (before, _) =>
        match Text.cutLast? '/' before with
        | none => before
        | some (first, _) => first
    some (String.ofList (cut ++ ['/']))
  else none

end PinLedger.Archive

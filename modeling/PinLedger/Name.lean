/-
# Package kinds and names

A package belongs to one of two ecosystems. Each compares names in a canonical form of its own:
conda drops surrounding blanks and case, pypi drops case and takes every run of `-`, `_` and `.`
for a single `-`.

Key definitions: `Kind`, `Kind.canonical`.
-/
import PinLedger.Text.Blank
import PinLedger.Text.Lower

namespace PinLedger

/-- The ecosystem of a package. -/
inductive Kind where
  | conda
  | pypi
deriving DecidableEq, Repr, Inhabited

/-- The word for a kind in lock files and in output. -/
def Kind.word : Kind → String
  | .conda => "conda"
  | .pypi => "pypi"

/-- Reads the word for a kind. -/
def Kind.ofWord? : String → Option Kind
  | "conda" => some .conda
  | "pypi" => some .pypi
  | _ => none

/-- Conda before pypi, the order in which kinds are listed. -/
def Kind.rank : Kind → Nat
  | .conda => 0
  | .pypi => 1

namespace Name

/-- The characters that separate the parts of a pypi name. -/
def isSeparator (c : Char) : Bool := c == '-' || c == '_' || c == '.'

/-- Writes one `-` for each run of separators. `inRun` tells that the character before was a
separator, whose `-` is already written. -/
def joinRuns (inRun : Bool) : List Char → List Char
  | [] => []
  | c :: cs =>
    if isSeparator c then (if inRun then [] else ['-']) ++ joinRuns true cs
    else c :: joinRuns false cs

/-- A conda name is compared without surrounding blanks and in lower case. -/
def conda (name : String) : String := Text.lower (Text.strip name)

/-- A pypi name is compared in lower case with `-` for each run of separators. -/
def pypi (name : String) : String :=
  String.ofList (joinRuns false (Text.lower name).toList)

end Name

/-- The canonical form of a name in its ecosystem. -/
def Kind.canonical : Kind → String → String
  | .conda => Name.conda
  | .pypi => Name.pypi

end PinLedger

/-
# Wheel file names

A wheel is named `<name>-<version>[-<build>]-<language tag>-<abi tag>-<platform tag>.whl`. The
language, abi and platform tags are words, several of them joined by dots.

Key definitions: `WheelName`, `WheelName.parse?`.
-/
import PinLedger.Name
import PinLedger.Text.Split
import PinLedger.Text.WordTable
import PinLedger.Version

namespace PinLedger

/-- What a wheel's file name says: the canonical name of its package, and its version. -/
structure WheelName where
  name : String
  version : Version
deriving DecidableEq, Repr, Inhabited

namespace WheelName

/-- The ending of wheel files. -/
def ending : String := ".whl"

/-- Does a file name end like a wheel's? -/
def hasEnding (fileName : String) : Bool := ending.toList.isSuffixOf fileName.toList

/-- A letter, a digit or the low line. -/
def isWordChar (c : Char) : Bool := Text.wordSet.has c

/-- Words joined by dots in front; the result is what stands behind them. -/
def skipTag? : Nat → List Char → Option (List Char)
  | 0, _ => none
  | fuel + 1, cs =>
    let rest := cs.dropWhile isWordChar
    if rest.length = cs.length then none
    else match rest with
      | '.' :: more => some ((skipTag? fuel more).getD rest)
      | _ => some rest

/-- Do three tags with dashes between them stand in front? -/
def startsWithTags (cs : List Char) : Bool :=
  let tag := skipTag? (cs.length + 1)
  match tag cs with
  | some ('-' :: rest) =>
    match tag rest with
    | some ('-' :: rest) => (tag rest).isSome
    | _ => false
  | _ => false

/-- May a wheel's package be spelled so? -/
def isNamePart (cs : List Char) : Bool :=
  let cs := if cs.getLast? == some '\n' then cs.dropLast else cs
  cs.all (fun c => isWordChar c || c == '.')
    && !(cs.zip (cs.drop 1)).contains ('_', '_')

/-- Reads a wheel's file name. -/
def parse? (fileName : String) : Option WheelName := do
  let stem ← Text.dropEnd? ending.toList fileName.toList
  let dashes := stem.count '-'
  if dashes != 4 && dashes != 5 then none
  let (namePart, rest) ← Text.cutFirst? '-' stem
  if !isNamePart namePart then none
  let (versionPart, rest) ← Text.cutFirst? '-' rest
  let version ← Version.parse? (String.ofList versionPart)
  let tags ←
    if dashes = 5 then do
      let (build, rest) ← Text.cutFirst? '-' rest
      if (build.head?.map Text.digitSet.has).getD false then some rest else none
    else some rest
  if startsWithTags tags then some ⟨Name.pypi (String.ofList namePart), version⟩ else none

end WheelName

end PinLedger

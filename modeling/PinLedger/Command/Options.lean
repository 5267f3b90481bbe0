/-
# The options of the program

The program has one command, `list`. Two of its flags can also be set by variables, which are not
looked at if the flag is given.

Key definitions: `Invocation`, `ListOptions`, `Invocation.read`.
-/
import PinLedger.Command.Arguments
import PinLedger.Listing
import PinLedger.Platform

namespace PinLedger.Command

/-- An option of the program or its command. -/
inductive OptionName where
  | verbose
  | help
  | platform
  | json
  | jsonPretty
  | sortBy
  | environment
  | explicit
  | frozen
  | locked
  | noInstall
  | manifestPath
deriving DecidableEq, Repr

/-- The spellings of the call for help. -/
def helpSpellings : List (Spelling OptionName) :=
  [⟨"--help", .help, .flag true⟩, ⟨"-h", .help, .flag true⟩]

/-- The spellings of the program's options. -/
def programSpellings : List (Spelling OptionName) :=
  [⟨"--verbose", .verbose, .flag true⟩, ⟨"-v", .verbose, .flag true⟩] ++ helpSpellings

/-- The spellings of the command's options. -/
def listSpellings : List (Spelling OptionName) :=
  [⟨"--platform", .platform, .value⟩, ⟨"--json", .json, .flag true⟩,
    ⟨"--json-pretty", .jsonPretty, .flag true⟩, ⟨"--no-json-pretty", .jsonPretty, .flag false⟩,
    ⟨"--sort-by", .sortBy, .value⟩, ⟨"--environment", .environment, .value⟩,
    ⟨"-e", .environment, .value⟩, ⟨"--explicit", .explicit, .flag true⟩,
    ⟨"-x", .explicit, .flag true⟩, ⟨"--frozen", .frozen, .flag true⟩,
    ⟨"--no-frozen", .frozen, .flag false⟩, ⟨"--locked", .locked, .flag true⟩,
    ⟨"--no-locked", .locked, .flag false⟩, ⟨"--no-install", .noInstall, .flag true⟩,
    ⟨"--no-no-install", .noInstall, .flag false⟩, ⟨"--manifest-path", .manifestPath, .value⟩]
    ++ helpSpellings

/-- The options of a listing. -/
structure ListOptions where
  pattern : Option String
  platform : Option String
  json : Bool
  jsonPretty : Bool
  sortKey : SortKey
  environment : Option String
  explicitOnly : Bool
  frozen : Bool
  locked : Bool
  noInstall : Bool
  manifestPath : Option Path
deriving DecidableEq, Repr, Inhabited

/-- What the arguments ask for. -/
inductive Invocation where
  | misused
  | help
  | list (verbose : Bool) (options : ListOptions)
deriving DecidableEq, Repr

/-- The words for a truth value in a variable. -/
def flagOfText? (s : String) : Option Bool :=
  let word := Text.lower (Text.strip s)
  if ["1", "true", "t", "yes", "y", "on"].contains word then some true
  else if ["0", "false", "f", "no", "n", "off", ""].contains word then some false
  else none

/-- A flag: as it is given, else as the variable sets it. -/
def flagOr? (s : Surroundings) (given : Option Bool) (name : String) : Option Bool :=
  match given with
  | some on => some on
  | none =>
    match s.setting? name with
    | some text => flagOfText? text
    | none => some false

/-- A platform that can be asked for. -/
def platformOf? : Option String → Option (Option String)
  | none => some none
  | some p => if Platform.knownPlatforms.contains p then some (some p) else none

/-- A sort key by its word, the name if there is none. -/
def sortKeyOf? : Option String → Option SortKey
  | none => some .name
  | some word => SortKey.ofWord? word

/-- At most one positional argument. -/
def patternOf? : List String → Option (Option String)
  | [] => some none
  | [pattern] => some (some pattern)
  | _ => none

/-- The options of a listing by its arguments. -/
def ListOptions.of? (s : Surroundings) (a : Arguments OptionName) : Option ListOptions := do
  let isOn (o : OptionName) : Bool := (a.flag? o).getD false
  return {
    pattern := ← patternOf? a.positional
    platform := ← platformOf? (a.value? .platform)
    json := isOn .json
    jsonPretty := isOn .jsonPretty
    sortKey := ← sortKeyOf? (a.value? .sortBy)
    environment := a.value? .environment
    explicitOnly := isOn .explicit
    frozen := ← flagOr? s (a.flag? .frozen) "LOCKVIEW_FROZEN"
    locked := ← flagOr? s (a.flag? .locked) "LOCKVIEW_LOCKED"
    noInstall := isOn .noInstall
    manifestPath := (a.value? .manifestPath).map Path.ofText }

/-- Is there a call for help? -/
def asksForHelp (a : Arguments OptionName) : Bool := (a.flag? .help).getD false

/-- What the arguments of the command ask for. -/
def readList (s : Surroundings) (verbose : Bool) (arguments : List String) : Invocation :=
  match Arguments.read? listSpellings true arguments with
  | none => .misused
  | some a =>
    if asksForHelp a then .help
    else match ListOptions.of? s a with
      | some options => .list verbose options
      | none => .misused

/-- What the arguments of the program ask for. -/
def Invocation.read (s : Surroundings) (arguments : List String) : Invocation :=
  match Arguments.read? programSpellings false arguments with
  | none => .misused
  | some a =>
    if asksForHelp a then .help
    else match a.positional with
      | "list" :: rest => readList s ((a.flag? .verbose).getD false) rest
      | _ => .misused

end PinLedger.Command

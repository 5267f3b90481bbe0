/-
# Requirements

A requirement names a package, with extras in brackets, a url or a list of version specifiers, and
a marker that tells where it applies. Only the name is wanted, but a requirement that is not
well-formed is not used at all, so every part is read.

Key definitions: `Requirement.readSpecifier?`, `Requirement.readMarker?`, `Requirement.name?`.
-/
import PinLedger.Text.Literal
import PinLedger.Text.Split
import PinLedger.Text.WordTable
import PinLedger.Version

namespace PinLedger.Requirement

/-- A blank inside a requirement. -/
def isGap (c : Char) : Bool := c == ' ' || c == '\t'

/-- Drops the blanks in front. -/
def skipGap (cs : List Char) : List Char := cs.dropWhile isGap

/-- A character that cannot stand next to a word. -/
def isWordChar (c : Char) : Bool := Text.wordSet.has c

/-- Is the next character no part of a word? -/
def endsWord : List Char → Bool
  | c :: _ => !isWordChar c
  | [] => true

/-! ### Names and extras -/

/-- A character of a name. -/
def isNameChar (c : Char) : Bool := c.isAlphanum || c == '.' || c == '_' || c == '-'

/-- The longest beginning of `taken`, held last character first, that ends a word before `rest`. -/
def backToWordEnd : List Char → List Char → Option (List Char × List Char)
  | [], _ => none
  | c :: taken, rest =>
    if isWordChar c != (!endsWord rest) then some ((c :: taken).reverse, rest)
    else backToWordEnd taken (c :: rest)

/-- Reads a name: it starts with a letter or digit and ends at the end of a word. -/
def readName? (cs : List Char) : Option (List Char × List Char) :=
  match cs with
  | c :: _ =>
    if c.isAlphanum then
      let taken := cs.takeWhile isNameChar
      backToWordEnd taken.reverse (cs.drop taken.length)
    else none
  | [] => none

/-- Reads the extras behind the first, each behind a comma. -/
def skipMoreExtras : Nat → List Char → Option (List Char)
  | 0, _ => none
  | fuel + 1, cs =>
    match skipGap cs with
    | ',' :: rest => do
      let (_, rest) ← readName? (skipGap rest)
      skipMoreExtras fuel rest
    | rest => some rest

/-- Reads extras in brackets, if there are any. -/
def skipExtras? (cs : List Char) : Option (List Char) :=
  match cs with
  | '[' :: rest => do
    let rest := skipGap rest
    let rest ← match readName? rest with
      | some (_, more) => skipMoreExtras (more.length + 1) more
      | none => some rest
    match skipGap rest with
    | ']' :: more => some more
    | _ => none
  | _ => some cs

/-! ### Version specifiers -/

/-- How a version is compared with the one in a specifier. -/
inductive Comparison where
  | compatible
  | equal
  | unequal
  | ordered
  | identical
deriving DecidableEq, Repr

/-- The comparison signs, longer ones before their beginnings. -/
def comparisons : List (String × Comparison) :=
  [("===", .identical), ("~=", .compatible), ("==", .equal), ("!=", .unequal), ("<=", .ordered),
    (">=", .ordered), ("<", .ordered), (">", .ordered)]

/-- Drops the parts of a version behind its release; a local label only where it is allowed. -/
def skipSuffix (withLabel : Bool) (cs : List Char) : List Char :=
  let (_, cs) := Version.readPre cs
  let (_, cs) := Version.readPost cs
  let (_, cs) := Version.readDev cs
  if withLabel then (Version.readLocal cs).2 else cs

/-- Reads the version of a specifier. An identity compares with any text; a version behind `==` or
`!=` may end in `.*` or a local label; one behind `~=` has two numbers at least. -/
def skipVersion? (comparison : Comparison) (cs : List Char) : Option (List Char) :=
  let cs := cs.dropWhile Text.isBlank
  match comparison with
  | .identical =>
    some (cs.dropWhile fun c => !(Text.isBlank c || c == ';' || c == ')'))
  | .compatible => do
    let ((_, release), rest) ← Version.readRelease? cs
    if release.length < 2 then none else some (skipSuffix false rest)
  | .ordered => do
    let (_, rest) ← Version.readRelease? cs
    some (skipSuffix false rest)
  | .equal | .unequal => do
    let (_, rest) ← Version.readRelease? cs
    match rest with
    | '.' :: '*' :: more => some more
    | _ => some (skipSuffix true rest)

/-- Reads a specifier: a comparison sign and a version. -/
def readSpecifier? (cs : List Char) : Option (List Char × List Char) := do
  let (comparison, rest) ← comparisons.findSome? fun (sign, comparison) =>
    if sign.toList.isPrefixOf cs then some (comparison, cs.drop sign.length) else none
  let rest ← skipVersion? comparison rest
  some (cs.take (cs.length - rest.length), rest)

/-- Reads specifiers with commas between them; a comma may also stand at the end. -/
def readSpecifiers : Nat → List Char → List (List Char) × List Char
  | 0, cs => ([], cs)
  | fuel + 1, cs =>
    match readSpecifier? cs with
    | none => ([], cs)
    | some (s, rest) =>
      match skipGap rest with
      | ',' :: more =>
        let (ss, rest) := readSpecifiers fuel (skipGap more)
        (s :: ss, rest)
      | rest => ([s], rest)

/-- Reads a list of specifiers, possibly in parentheses. -/
def readSpecifierList? (cs : List Char) : Option (List (List Char) × List Char) :=
  match cs with
  | '(' :: rest =>
    let (ss, rest) := readSpecifiers (rest.length + 1) (skipGap rest)
    match skipGap rest with
    | ')' :: more => some (ss, more)
    | _ => none
  | _ =>
    let (ss, rest) := readSpecifiers (cs.length + 1) (skipGap cs)
    some (ss, skipGap rest)

/-- Is the text a specifier and nothing else? -/
def isSpecifier (cs : List Char) : Bool :=
  match readSpecifier? cs with
  | some (_, rest) => rest.all Text.isBlank
  | none => false

/-- Does a list of specifiers, cut at its commas, consist of specifiers? -/
def areSpecifiers (ss : List (List Char)) : Bool :=
  ss.all fun s => ((Text.splitAt ',' s).map (Text.trimBoth Text.isBlank)).all fun part =>
    part.isEmpty || isSpecifier part

/-! ### Markers -/

/-- The variables that a marker may ask about. -/
def markerNames : List String :=
  ["python_version", "python_full_version", "os_name", "os.name", "sys_platform", "sys.platform",
    "platform_release", "platform_system", "platform_version", "platform.version",
    "platform_machine", "platform.machine", "platform_python_implementation",
    "platform.python_implementation", "python_implementation", "implementation_name",
    "implementation_version", "extras", "extra", "dependency_groups"]

/-- Reads one of some words; it has to end where the word ends. -/
def skipWord? (words : List String) (cs : List Char) : Option (List Char) :=
  words.findSome? fun w =>
    if w.toList.isPrefixOf cs && endsWord (cs.drop w.length) then some (cs.drop w.length) else none

/-- Reads a text that ends with the quote it begins with. Its escapes have to be in order. -/
def skipQuoted? (quote : Char) (cs : List Char) : Option (List Char) := do
  let (body, rest) ← Text.cutFirst? quote cs
  if Literal.isLiteral (quote :: body ++ [quote]) then some rest else none

/-- Reads a variable or a quoted text. -/
def skipOperand? (cs : List Char) : Option (List Char) :=
  match skipWord? markerNames cs with
  | some rest => some rest
  | none =>
    match cs with
    | '\'' :: rest => skipQuoted? '\'' rest
    | '"' :: rest => skipQuoted? '"' rest
    | _ => none

/-- Reads a comparison: `in`, `not in` or a comparison sign. -/
def skipComparison? (cs : List Char) : Option (List Char) :=
  match skipWord? ["in"] cs with
  | some rest => some rest
  | none =>
    match skipWord? ["not"] cs with
    | some rest =>
      if (skipGap rest).length < rest.length then skipWord? ["in"] (skipGap rest) else none
    | none =>
      comparisons.findSome? fun c =>
        if c.1.toList.isPrefixOf cs then some (cs.drop c.1.length) else none

/-- Reads two operands with a comparison between them. -/
def skipItem? (cs : List Char) : Option (List Char) := do
  let rest ← skipOperand? (skipGap cs)
  let rest ← skipComparison? (skipGap rest)
  skipOperand? (skipGap rest)

mutual

/-- Reads a marker: comparisons joined by `and` and `or`. -/
def readMarker? : Nat → List Char → Option (List Char)
  | 0, _ => none
  | fuel + 1, cs => do
    let rest ← readAtom? fuel cs
    match skipWord? ["or", "and"] rest with
    | some more => readMarker? fuel more
    | none => some rest

/-- Reads a comparison, or a marker in parentheses. -/
def readAtom? : Nat → List Char → Option (List Char)
  | 0, _ => none
  | fuel + 1, cs =>
    match skipGap cs with
    | '(' :: rest => do
      let rest ← readMarker? fuel rest
      match skipGap rest with
      | ')' :: more => some (skipGap more)
      | _ => none
    | rest => (skipItem? rest).map skipGap

end

/-- Reads a marker behind a semicolon. -/
def skipMarker? (cs : List Char) : Option (List Char) :=
  match cs with
  | ';' :: rest => (readMarker? (2 * rest.length + 2) rest).map skipGap
  | _ => none

/-! ### The whole requirement -/

/-- Reads what stands behind name and extras. The result is the list of specifiers. -/
def readDetails? (cs : List Char) : Option (List (List Char)) :=
  match cs with
  | '@' :: rest =>
    let rest := skipGap rest
    let url := rest.takeWhile fun c => !isGap c
    let rest := rest.drop url.length
    if url.isEmpty then none
    else if (skipGap rest).isEmpty then some []
    else match skipMarker? (skipGap rest) with
      | some [] => some []
      | _ => none
  | _ => do
    let (ss, rest) ← readSpecifierList? cs
    let rest := skipGap rest
    if rest.isEmpty then some ss
    else match skipMarker? rest with
      | some [] => some ss
      | _ => none

/-- The name that a requirement gives, if it is well-formed. -/
def name? (s : String) : Option String := do
  let (name, rest) ← readName? (skipGap s.toList)
  let rest ← skipExtras? (skipGap rest)
  let specifiers ← readDetails? (skipGap rest)
  if areSpecifiers specifiers then some (String.ofList name) else none

end PinLedger.Requirement

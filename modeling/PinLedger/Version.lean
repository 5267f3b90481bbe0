/-
# Package versions

A pypi version is an epoch, a release (numbers between dots) and optional parts for pre-, post- and
development releases and a local label. Each part has several spellings and one normal form; two
versions are the same if their parts are, where zeros at the end of the release do not count.

Key definitions: `Version`, `Version.parse?`, `Version.hasLongNumeral`, `Version.text`,
`Version.same`.
-/
import PinLedger.Number.Decimal
import PinLedger.Text.Blank
import PinLedger.Text.Split

namespace PinLedger

/-- A stage before a release. -/
inductive Stage where
  | alpha
  | beta
  | candidate
deriving DecidableEq, Repr, Inhabited

/-- The letters of a stage in the normal form. -/
def Stage.letters : Stage → String
  | .alpha => "a"
  | .beta => "b"
  | .candidate => "rc"

/-- A part of a local label: a number, or a word in lower case. -/
inductive LocalPart where
  | number (n : Nat)
  | word (s : String)
deriving DecidableEq, Repr, Inhabited

/-- The text of a part of a local label. -/
def LocalPart.text : LocalPart → String
  | .number n => toString n
  | .word s => s

/-- A version. -/
structure Version where
  epoch : Nat
  release : List Nat
  pre : Option (Stage × Nat)
  post : Option Nat
  dev : Option Nat
  localLabel : List LocalPart
deriving DecidableEq, Repr, Inhabited

namespace Version

/-! ### The parts of a version, read from the front -/

/-- Digits in front, as a number. -/
def readNumber? (cs : List Char) : Option (Nat × List Char) :=
  let ds := cs.takeWhile Number.isDigit
  if ds.isEmpty then none else some (Number.ofDigits 10 ds, cs.drop ds.length)

/-- Digits in front, zero if there are none. -/
def readNumber (cs : List Char) : Nat × List Char := (readNumber? cs).getD (0, cs)

/-- A character that may stand around the letters of a part. -/
def isSeparator (c : Char) : Bool := c == '-' || c == '_' || c == '.'

/-- Drops at most one separator. -/
def skipSeparator : List Char → List Char
  | c :: cs => if isSeparator c then cs else c :: cs
  | [] => []

/-- The first of some words that stands in front; the case of letters does not matter. -/
def readWord? {α : Type} (words : List (String × α)) (cs : List Char) : Option (α × List Char) :=
  words.findSome? fun w =>
    let n := w.1.length
    if (cs.take n).map Char.toLower == w.1.toList then some (w.2, cs.drop n) else none

/-- A word with separators around it and a number behind it. -/
def readPart? {α : Type} (words : List (String × α)) (cs : List Char) :
    Option ((α × Nat) × List Char) := do
  let (a, rest) ← readWord? words (skipSeparator cs)
  let (n, rest) := readNumber (skipSeparator rest)
  some ((a, n), rest)

/-- The spellings of the stages, longer words before their beginnings. -/
def stageWords : List (String × Stage) :=
  [("alpha", .alpha), ("a", .alpha), ("beta", .beta), ("b", .beta), ("preview", .candidate),
    ("pre", .candidate), ("c", .candidate), ("rc", .candidate)]

/-- The spellings of a post-release. -/
def postWords : List (String × Unit) := [("post", ()), ("rev", ()), ("r", ())]

/-- The spelling of a development release. -/
def devWords : List (String × Unit) := [("dev", ())]

/-- A stage before a release. -/
def readPre (cs : List Char) : Option (Stage × Nat) × List Char :=
  match readPart? stageWords cs with
  | some (p, rest) => (some p, rest)
  | none => (none, cs)

/-- A post-release: a dash and a number, or a word. -/
def readPost (cs : List Char) : Option Nat × List Char :=
  let byWord := match readPart? postWords cs with
    | some (p, rest) => (some p.2, rest)
    | none => (none, cs)
  match cs with
  | '-' :: more =>
    match readNumber? more with
    | some (n, rest) => (some n, rest)
    | none => byWord
  | _ => byWord

/-- A development release. -/
def readDev (cs : List Char) : Option Nat × List Char :=
  match readPart? devWords cs with
  | some (p, rest) => (some p.2, rest)
  | none => (none, cs)

/-- The numbers behind the first one of a release, each behind a dot. -/
def readMoreRelease : Nat → List Char → List Nat × List Char
  | 0, cs => ([], cs)
  | fuel + 1, cs =>
    match cs with
    | '.' :: more =>
      match readNumber? more with
      | some (n, rest) =>
        let (ns, rest) := readMoreRelease fuel rest
        (n :: ns, rest)
      | none => ([], cs)
    | _ => ([], cs)

/-- An epoch: a number and `!`. -/
def readEpoch (cs : List Char) : Nat × List Char :=
  match readNumber? cs with
  | some (n, '!' :: rest) => (n, rest)
  | _ => (0, cs)

/-- Epoch and release, behind an optional `v`. -/
def readRelease? (cs : List Char) : Option ((Nat × List Nat) × List Char) := do
  let cs := match cs with
    | c :: rest => if c == 'v' || c == 'V' then rest else cs
    | [] => cs
  let (epoch, cs) := readEpoch cs
  let (first, cs) ← readNumber? cs
  let (more, cs) := readMoreRelease cs.length cs
  some ((epoch, first :: more), cs)

/-- A character of a local label. -/
def isLabelChar (c : Char) : Bool := c.isAlphanum

/-- A part of a local label from its characters. -/
def labelPart (cs : List Char) : LocalPart :=
  if cs.all Number.isDigit then .number (Number.ofDigits 10 cs)
  else .word (String.ofList (cs.map Char.toLower))

/-- The parts of a local label, at least one, with single separators between them. -/
def readLabel : Nat → List Char → Option (List LocalPart × List Char)
  | 0, _ => none
  | fuel + 1, cs =>
    let part := cs.takeWhile isLabelChar
    let rest := cs.drop part.length
    if part.isEmpty then none
    else match rest with
      | c :: more =>
        if isSeparator c then
          match readLabel fuel more with
          | some (parts, rest) => some (labelPart part :: parts, rest)
          | none => some ([labelPart part], rest)
        else some ([labelPart part], rest)
      | [] => some ([labelPart part], [])

/-- A local label behind `+`. -/
def readLocal (cs : List Char) : List LocalPart × List Char :=
  match cs with
  | '+' :: more => (readLabel (more.length + 1) more).getD ([], cs)
  | _ => ([], cs)

/-- Reads a version; blanks around it do not count. -/
def parse? (s : String) : Option Version := do
  let cs := Text.trimBoth Text.isBlank s.toList
  let ((epoch, release), cs) ← readRelease? cs
  let (pre, cs) := readPre cs
  let (post, cs) := readPost cs
  let (dev, cs) := readDev cs
  let (label, cs) := readLocal cs
  if cs.isEmpty then some ⟨epoch, release, pre, post, dev, label⟩ else none

/-- The most digits of a numeral. -/
def maxDigits : Nat := 4300

/-- Is the word a numeral that is too long? -/
def isLongNumeral (word : List Char) : Bool :=
  word.all Number.isDigit && decide (maxDigits < word.length)

/-- Does a version have a numeral that is too long? In a local label, whose words may hold letters,
only a word of digits is a numeral; in front of it every run of digits is one. -/
def hasLongNumeral (s : String) : Bool :=
  let cs := Text.trimBoth Text.isBlank s.toList
  let (release, label) := (Text.cutFirst? '+' cs).getD (cs, [])
  (release.splitOnP fun c => !Number.isDigit c).any isLongNumeral
    || (label.splitOnP isSeparator).any isLongNumeral

/-- The normal form of a version. -/
def text (v : Version) : String :=
  (if v.epoch = 0 then "" else toString v.epoch ++ "!")
    ++ ".".intercalate (v.release.map toString)
    ++ (match v.pre with
      | some (stage, n) => stage.letters ++ toString n
      | none => "")
    ++ (match v.post with
      | some n => ".post" ++ toString n
      | none => "")
    ++ (match v.dev with
      | some n => ".dev" ++ toString n
      | none => "")
    ++ (if v.localLabel.isEmpty then ""
      else "+" ++ ".".intercalate (v.localLabel.map LocalPart.text))

/-- The version with the zeros at the end of its release dropped. -/
def trimmed (v : Version) : Version :=
  { v with release := (v.release.reverse.dropWhile (· == 0)).reverse }

/-- Are two versions equal? -/
def same (v w : Version) : Bool := v.trimmed == w.trimmed

end Version

end PinLedger

/-
# What a YAML scalar means

A plain scalar is given a tag by its form: `on` is a truth value, `1_000`, `0x1F` and `1:30` are
integers, `2024-01-01` is a stamp. A tag then reads the text, and refuses one that it gives no
meaning to.

Key definitions: `Tag`, `Tag.ofForm`, `Scalar.toInt`, `Scalar.toFloat`, `Scalar.toStamp`,
`Scalar.read`.
-/
import PinLedger.Document.Calendar
import PinLedger.Number.Decimal
import PinLedger.Regex.Reader
import PinLedger.Regex.Search
import PinLedger.Text.WordTable
import PinLedger.Yaml.Source

namespace PinLedger.Yaml

open Document

/-- What a node is to be read as. -/
inductive Tag where
  | null
  | bool
  | int
  | float
  | binary
  | stamp
  | text
  | list
  | table
  | set
  | ordered
  | pairs
  /-- The key `<<`, whose value is merged into its table. -/
  | merge
  /-- The key `=`, the main value of a table. -/
  | main
  | unknown
deriving DecidableEq, Repr, Inhabited

/-- What the tags with a common meaning begin with. -/
def Tag.commonStart : String := "tag:yaml.org,2002:"

/-- The tags with a common meaning by their last word. -/
def Tag.words : List (String × Tag) :=
  [("null", .null), ("bool", .bool), ("int", .int), ("float", .float), ("binary", .binary),
    ("timestamp", .stamp), ("str", .text), ("seq", .list), ("map", .table), ("set", .set),
    ("omap", .ordered), ("pairs", .pairs), ("merge", .merge), ("value", .main)]

/-- The tag of a uri. -/
def Tag.ofUri (uri : String) : Tag :=
  if uri.startsWith Tag.commonStart then
    (Tag.words.lookup (uri.drop Tag.commonStart.length).toString).getD .unknown
  else .unknown

/-! ### The forms of plain scalars -/

/-- A form of plain scalars: the characters it may begin with and its pattern. -/
structure Form where
  tag : Tag
  starts : List Char
  pattern : Option Regex

/-- A form by its alternatives. -/
def Form.of (tag : Tag) (starts : String) (alternatives : List String) : Form :=
  ⟨tag, starts.toList, (Regex.parse ("^(?:" ++ "|".intercalate alternatives ++ ")$")).toOption⟩

/-- The forms in the order in which they are tried. -/
def Form.all : List Form :=
  [Form.of .bool "yYnNtTfFoO" ["yes|Yes|YES|no|No|NO|true|True|TRUE|false|False|FALSE",
      "on|On|ON|off|Off|OFF"],
    Form.of .float "-+0123456789." ["[-+]?(?:[0-9][0-9_]*)\\.[0-9_]*(?:[eE][-+][0-9]+)?",
      "\\.[0-9][0-9_]*(?:[eE][-+][0-9]+)?", "[-+]?[0-9][0-9_]*(?::[0-5]?[0-9])+\\.[0-9_]*",
      "[-+]?\\.(?:inf|Inf|INF)", "\\.(?:nan|NaN|NAN)"],
    Form.of .int "-+0123456789" ["[-+]?0b[0-1_]+", "[-+]?0[0-7_]+", "[-+]?(?:0|[1-9][0-9_]*)",
      "[-+]?0x[0-9a-fA-F_]+", "[-+]?[1-9][0-9_]*(?::[0-5]?[0-9])+"],
    Form.of .merge "<" ["<<"],
    Form.of .null "~nN" ["~|null|Null|NULL"],
    Form.of .stamp "0123456789" ["[0-9][0-9][0-9][0-9]-[0-9][0-9]-[0-9][0-9]",
      "[0-9][0-9][0-9][0-9]-[0-9][0-9]?-[0-9][0-9]?(?:[Tt]|[ \\t]+)[0-9][0-9]?:[0-9][0-9]:"
        ++ "[0-9][0-9](?:\\.[0-9]*)?(?:[ \\t]*(?:Z|[-+][0-9][0-9]?(?::[0-9][0-9])?))?"],
    Form.of .main "=" ["="],
    Form.of .unknown "!&*" ["!|&|\\*"]]

/-- The tag of a plain scalar; an empty one is null. -/
def Tag.ofForm (s : String) : Tag :=
  match s.toList with
  | [] => .null
  | c :: _ =>
    let form := Form.all.find? fun f =>
      f.starts.contains c && (f.pattern.map fun r => r.matchesIn s).getD false
    (form.map Form.tag).getD .text

namespace Scalar

/-! ### Numbers -/

/-- A sign in front of a numeral, and the rest. -/
def splitSign : List Char → Bool × List Char
  | '-' :: rest => (true, rest)
  | '+' :: rest => (false, rest)
  | cs => (false, cs)

/-- The letters that may stand behind a zero in front of the digits of a base. -/
def baseLetters : Nat → List Char
  | 2 => ['b', 'B']
  | 8 => ['o', 'O']
  | 16 => ['x', 'X']
  | _ => []

/-- Drops the mark of a base. -/
def dropBase (base : Nat) : List Char → List Char
  | '0' :: c :: rest => if (baseLetters base).contains c then rest else '0' :: c :: rest
  | cs => cs

/-- Reads an integer in a base; blanks around it and a sign are let through. In base ten it may
have too many digits. -/
def intIn (base : Nat) (cs : List Char) : Except Fault Int :=
  let (negative, body) := splitSign (Text.commonForm cs)
  let digits := dropBase base body
  let values := digits.filterMap Number.digit?
  if digits.isEmpty || values.length != digits.length || values.any (base ≤ ·) then
    .error .outOfRange
  else if base = 10 ∧ Number.writtenDigits < digits.length then .error .outOfRange
  else
    let n : Int := Number.ofDigits base digits
    .ok (if negative then -n else n)

/-- Puts parts in base 60 together. -/
def sexagesimal (parts : List Int) : Int := parts.foldl (fun n p => n * 60 + p) 0

/-- Reads the digits of an integer behind its sign. -/
def magnitude : List Char → Except Fault Int
  | [] => .error .noDigits
  | ['0'] => .ok 0
  | '0' :: 'b' :: rest => intIn 2 rest
  | '0' :: 'x' :: rest => intIn 16 rest
  | '0' :: rest => intIn 8 ('0' :: rest)
  | cs =>
    if cs.contains ':' then sexagesimal <$> (cs.splitOn ':').mapM (intIn 10)
    else intIn 10 cs

/-- Reads an integer. Low lines are passed over. -/
def toInt (s : String) : Except Fault Int :=
  match s.toList.filter (· != '_') with
  | [] => .error .noDigits
  | cs =>
    let (negative, body) := splitSign cs
    (fun n => if negative then -n else n) <$> magnitude body

/-- Reads an exponent behind its letter. -/
def exponent? (cs : List Char) : Option Int :=
  let (negative, digits) := splitSign cs
  if digits.isEmpty || !digits.all Number.isDigit then none
  else
    let n : Int := Number.ofDigits 10 digits
    some (if negative then -n else n)

/-- Reads a decimal in lower case: digits with a point and an exponent. -/
def decimal? (negative : Bool) (cs : List Char) : Option Float :=
  let whole := cs.takeWhile Number.isDigit
  let rest := cs.drop whole.length
  let fraction := match rest with
    | '.' :: more => more.takeWhile Number.isDigit
    | _ => []
  let rest := match rest with
    | '.' :: more => more.drop fraction.length
    | _ => rest
  if whole.isEmpty && fraction.isEmpty then none
  else match rest with
    | [] => some (Number.ofNumeral negative whole fraction 0)
    | 'e' :: more => (exponent? more).map (Number.ofNumeral negative whole fraction)
    | _ => none

/-- Reads a double in lower case; blanks around it and a sign are let through. -/
def double (cs : List Char) : Except Fault Float :=
  let (negative, body) := splitSign (Text.commonForm cs)
  match String.ofList body with
  | "inf" | "infinity" => .ok (if negative then -(1.0 / 0.0) else 1.0 / 0.0)
  | "nan" => .ok (0.0 / 0.0)
  | _ =>
    match decimal? negative body with
    | some x => .ok x
    | none => .error .outOfRange

/-- The most parts in base 60 of a double: `60 ^ 174` is too large for one. -/
def maxParts : Nat := 174

/-- Puts parts in base 60 together, the last one first. -/
def sexagesimalFloat (parts : List Float) : Except Fault Float :=
  if maxParts < parts.length then .error .tooLarge
  else .ok (parts.reverse.foldl
    (fun (sum : Float × Nat) p => (sum.1 + p * Float.ofNat sum.2, sum.2 * 60)) (0.0, 1)).1

/-- Reads a double. Low lines are passed over. -/
def toFloat (s : String) : Except Fault Float :=
  match (s.toList.filter (· != '_')).map Char.toLower with
  | [] => .error .noDigits
  | cs =>
    let (negative, body) := splitSign cs
    let signed (x : Float) : Float := if negative then -x else x
    match String.ofList body with
    | ".inf" => .ok (signed (1.0 / 0.0))
    | ".nan" => .ok (0.0 / 0.0)
    | _ =>
      if body.contains ':' then
        signed <$> ((body.splitOn ':').mapM double >>= sexagesimalFloat)
      else signed <$> double body

/-! ### Other scalars -/

/-- Reads a truth value. -/
def toBool (s : String) : Except Fault Bool :=
  let word := String.ofList (s.toList.map Char.toLower)
  if ["yes", "true", "on"].contains word then .ok true
  else if ["no", "false", "off"].contains word then .ok false
  else .error .unknownWord

/-- Reads one or two digits. -/
def oneOrTwo? (cs : List Char) : Option (Nat × List Char) :=
  let ds := (cs.takeWhile Number.isDigit).take 2
  if ds.isEmpty then none else some (Number.ofDigits 10 ds, cs.drop ds.length)

/-- Reads a number of digits. -/
def digits? (n : Nat) (cs : List Char) : Option (Nat × List Char) :=
  let ds := cs.take n
  if ds.length = n ∧ ds.all Number.isDigit then some (Number.ofDigits 10 ds, cs.drop n) else none

/-- Reads a character. -/
def sign? (c : Char) : List Char → Option (List Char)
  | d :: rest => if d = c then some rest else none
  | [] => none

/-- The first six digits of a fraction as a number of millionths. -/
def millionths (cs : List Char) : Nat :=
  let ds := cs.take 6
  Number.ofDigits 10 (ds ++ List.replicate (6 - ds.length) '0')

/-- Is it the end of a scalar? -/
def isEnd : List Char → Bool
  | [] => true
  | cs => cs == ['\n']

/-- Reads the distance to universal time at the end of a stamp. -/
def offset? (cs : List Char) : Option (Option Int) :=
  if isEnd cs then some none
  else match cs.dropWhile (fun c => c == ' ' || c == '\t') with
    | 'Z' :: rest => if isEnd rest then some (some 0) else none
    | c :: rest =>
      if c = '+' ∨ c = '-' then do
        let (hours, rest) ← oneOrTwo? rest
        let (minutes, rest) ← match rest with
          | ':' :: more => digits? 2 more
          | _ => some (0, rest)
        let seconds : Int := (hours * 60 + minutes) * 60
        if isEnd rest then some (some (if c = '-' then -seconds else seconds)) else none
      else none
    | [] => none

/-- Reads the time of day of a stamp. -/
def clock? (cs : List Char) : Option Clock := do
  let (hour, cs) ← oneOrTwo? cs
  let (minute, cs) ← digits? 2 (← sign? ':' cs)
  let (second, cs) ← digits? 2 (← sign? ':' cs)
  let fraction := match cs with
    | '.' :: rest => rest.takeWhile Number.isDigit
    | _ => []
  let cs := match cs with
    | '.' :: rest => rest.drop fraction.length
    | _ => cs
  let offset ← offset? cs
  some ⟨hour, minute, second, millionths fraction, offset⟩

/-- Reads the form of a stamp; the numbers need not make sense yet. -/
def stamp? (cs : List Char) : Option Stamp := do
  let (year, cs) ← digits? 4 cs
  let (month, cs) ← oneOrTwo? (← sign? '-' cs)
  let (day, cs) ← oneOrTwo? (← sign? '-' cs)
  let date : Day := ⟨year, month, day⟩
  if isEnd cs then some (.day date)
  else match cs with
    | c :: rest =>
      if c = 'T' ∨ c = 't' then (clock? rest).map (Stamp.moment date)
      else if c = ' ' ∨ c = '\t' then
        (clock? (rest.dropWhile fun c => c == ' ' || c == '\t')).map (Stamp.moment date)
      else none
    | [] => none

/-- Reads a stamp. -/
def toStamp (s : String) : Except Fault Stamp :=
  match stamp? s.toList with
  | none => .error .noStamp
  | some stamp =>
    let valid := match stamp with
      | .day d => d.isValid
      | .moment d t => d.isValid && t.isValid
      | .clock t => t.isValid
    if valid then .ok stamp else .error .outOfRange

/-- The value of a character that stands for six bits. -/
def sixBits? (c : Char) : Option Nat :=
  if 'A' ≤ c ∧ c ≤ 'Z' then some (c.toNat - 65)
  else if 'a' ≤ c ∧ c ≤ 'z' then some (c.toNat - 71)
  else if '0' ≤ c ∧ c ≤ '9' then some (c.toNat + 4)
  else if c = '+' then some 62
  else if c = '/' then some 63
  else none

/-- Reads octets written in groups of six bits. `place` counts the characters of a group of four,
`left` holds the bits of the last one that no octet has yet, and `pads` counts the marks that fill
a group up. Other characters are passed over. -/
def octets? (place left pads : Nat) : List Char → Option (List UInt8)
  | [] => if place = 0 then some [] else none
  | c :: rest =>
    if c = '=' then
      if 2 ≤ place ∧ 4 ≤ place + pads + 1 then some []
      else octets? place left (if 2 ≤ place then pads + 1 else pads) rest
    else match sixBits? c with
      | none => octets? place left pads rest
      | some n =>
        match place with
        | 0 => octets? 1 n 0 rest
        | 1 => (octets? 2 (n % 16) 0 rest).map (UInt8.ofNat (left * 4 + n / 16) :: ·)
        | 2 => (octets? 3 (n % 4) 0 rest).map (UInt8.ofNat (left * 16 + n / 4) :: ·)
        | _ => (octets? 0 0 0 rest).map (UInt8.ofNat (left * 64 + n) :: ·)

/-- Reads binary data. -/
def toOctets (s : String) : Except Fault (List UInt8) :=
  let cs := s.toList
  if cs.all fun c => c.toNat < 128 then
    match octets? 0 0 0 cs with
    | some octets => .ok octets
    | none => .error .malformed
  else .error .malformed

/-- Reads a text as a tag for scalars says. -/
def read (tag : Tag) (s : String) : Except Fault Value :=
  match tag with
  | .null => .ok .null
  | .bool => Value.bool <$> toBool s
  | .int => Value.int <$> toInt s
  | .float => Value.float <$> toFloat s
  | .binary => Value.bytes <$> toOctets s
  | .stamp => Value.stamp <$> toStamp s
  | .text => .ok (.text s)
  | _ => .error .malformed

end Scalar

end PinLedger.Yaml

/-
# Reading JSON

A reader for one JSON value with blanks around it. Every reading function gives back the characters
it did not use; `parse?` wants none left. Of two fields with one name the later value counts, at
the place of the earlier.

Key definitions: `Json.readValue`, `Json.parse?`.
-/
import PinLedger.Json.Basic

namespace PinLedger.Json

/-- The characters that may stand between the parts of a JSON text. -/
def isGap (c : Char) : Bool := c == ' ' || c == '\n' || c == '\r' || c == '\t'

/-- Drops the gap in front. -/
def skipGap (cs : List Char) : List Char := cs.dropWhile isGap

/-- Reads four hexadecimal digits. -/
def readHex4 : List Char → Option (Nat × List Char)
  | a :: b :: c :: d :: rest => do
    let ds ← [a, b, c, d].mapM Number.digit?
    if ds.all (· < 16) then some (ds.foldl (fun n x => n * 16 + x) 0, rest) else none
  | _ => none

/-- The character of a single-letter escape. -/
def simpleEscape? : Char → Option Char
  | '"' => some '"'
  | '\\' => some '\\'
  | '/' => some '/'
  | 'b' => some '\x08'
  | 'f' => some '\x0c'
  | 'n' => some '\n'
  | 'r' => some '\r'
  | 't' => some '\t'
  | _ => none

/-- Reads the escape behind a backslash. Two halves of a surrogate pair are one character. -/
def readEscape : List Char → Option (Char × List Char)
  | 'u' :: rest => do
    let (high, rest) ← readHex4 rest
    if 0xD800 ≤ high ∧ high < 0xDC00 then
      match rest with
      | '\\' :: 'u' :: more =>
        let (low, more) ← readHex4 more
        if 0xDC00 ≤ low ∧ low < 0xE000 then
          some (Char.ofNat (0x10000 + (high - 0xD800) * 0x400 + (low - 0xDC00)), more)
        else some ('\uFFFD', rest)
      | _ => some ('\uFFFD', rest)
    else if 0xDC00 ≤ high ∧ high < 0xE000 then some ('\uFFFD', rest)
    else some (Char.ofNat high, rest)
  | c :: rest => (simpleEscape? c).map (·, rest)
  | [] => none

/-- Reads the inside of a text up to its closing quote; `acc` holds what was read, last first. -/
def readText : Nat → List Char → List Char → Option (String × List Char)
  | 0, _, _ => none
  | fuel + 1, acc, cs =>
    match cs with
    | '"' :: rest => some (String.ofList acc.reverse, rest)
    | '\\' :: rest => do
      let (c, rest) ← readEscape rest
      readText fuel (c :: acc) rest
    | c :: rest => if c.toNat < 0x20 then none else readText fuel (c :: acc) rest
    | [] => none

/-- Splits off the digits in front. -/
def spanDigits (cs : List Char) : List Char × List Char :=
  (cs.takeWhile Number.isDigit, cs.dropWhile Number.isDigit)

/-- Splits off a minus, and tells whether there was one. -/
def readMinus : List Char → Bool × List Char
  | '-' :: rest => (true, rest)
  | cs => (false, cs)

/-- Splits off the digits of the whole part; a zero stands alone. -/
def readWhole : List Char → List Char × List Char
  | '0' :: rest => (['0'], rest)
  | cs => spanDigits cs

/-- Splits off a point with digits behind it, and gives the digits. -/
def readFraction : List Char → List Char × List Char
  | '.' :: rest =>
    let (ds, more) := spanDigits rest
    if ds.isEmpty then ([], '.' :: rest) else (ds, more)
  | cs => ([], cs)

/-- Splits off the sign of an exponent, and tells whether it is a minus. -/
def readSign : List Char → Bool × List Char
  | '+' :: rest => (false, rest)
  | cs => readMinus cs

/-- Splits off an exponent, if there is one. -/
def readExponent : List Char → Option Int × List Char
  | e :: rest =>
    if e == 'e' || e == 'E' then
      let (minus, digits) := readSign rest
      let (ds, more) := spanDigits digits
      if ds.isEmpty then (none, e :: rest)
      else
        let n : Int := Number.ofDigits 10 ds
        (some (if minus then -n else n), more)
    else (none, e :: rest)
  | [] => (none, [])

/-- Reads a number. A fraction or an exponent makes it a double. -/
def readNumber (cs : List Char) : Option (Json × List Char) :=
  let (negative, cs) := readMinus cs
  let (whole, cs) := readWhole cs
  if whole.isEmpty then none
  else
    let (fraction, cs) := readFraction cs
    let (exponent, cs) := readExponent cs
    if fraction.isEmpty && exponent.isNone then
      let n : Int := Number.ofDigits 10 whole
      some (.int (if negative then -n else n), cs)
    else some (.float (Number.ofNumeral negative whole fraction (exponent.getD 0)), cs)

/-- Reads a fixed word. -/
def readWord (word : String) (j : Json) (cs : List Char) : Option (Json × List Char) :=
  if word.toList.isPrefixOf cs then some (j, cs.drop word.length) else none

mutual

/-- Reads a value. -/
def readValue : Nat → List Char → Option (Json × List Char)
  | 0, _ => none
  | fuel + 1, cs =>
    match skipGap cs with
    | '"' :: rest => do
      let (s, rest) ← readText (rest.length + 1) [] rest
      some (.text s, rest)
    | '[' :: rest =>
      match skipGap rest with
      | ']' :: more => some (.list [], more)
      | _ => do
        let (items, more) ← readItems fuel [] rest
        some (.list items, more)
    | '\x7b' :: rest =>
      match skipGap rest with
      | '\x7d' :: more => some (.object [], more)
      | _ => do
        let (fields, more) ← readFields fuel [] rest
        some (.object fields, more)
    | 't' :: rest => readWord "true" (.bool true) ('t' :: rest)
    | 'f' :: rest => readWord "false" (.bool false) ('f' :: rest)
    | 'n' :: rest => readWord "null" .null ('n' :: rest)
    | 'N' :: rest => readWord "NaN" (.float (0.0 / 0.0)) ('N' :: rest)
    | 'I' :: rest => readWord "Infinity" (.float (1.0 / 0.0)) ('I' :: rest)
    | '-' :: 'I' :: rest => readWord "-Infinity" (.float (-1.0 / 0.0)) ('-' :: 'I' :: rest)
    | other => readNumber other

/-- Reads the items of a list up to its closing bracket; `acc` holds them last first. -/
def readItems : Nat → List Json → List Char → Option (List Json × List Char)
  | 0, _, _ => none
  | fuel + 1, acc, cs => do
    let (j, rest) ← readValue fuel cs
    match skipGap rest with
    | ',' :: more => readItems fuel (j :: acc) more
    | ']' :: more => some ((j :: acc).reverse, more)
    | _ => none

/-- Reads the fields of an object up to its closing brace. -/
def readFields : Nat → List (String × Json) → List Char →
    Option (List (String × Json) × List Char)
  | 0, _, _ => none
  | fuel + 1, acc, cs =>
    match skipGap cs with
    | '"' :: rest => do
      let (name, rest) ← readText (rest.length + 1) [] rest
      match skipGap rest with
      | ':' :: rest =>
        let (j, rest) ← readValue fuel rest
        let acc := Document.putField acc name j
        match skipGap rest with
        | ',' :: more => readFields fuel acc more
        | '\x7d' :: more => some (acc, more)
        | _ => none
      | _ => none
    | _ => none

end

/-- Reads a text that holds one JSON value. -/
def parse? (s : String) : Option Json :=
  let cs := s.toList
  match readValue (2 * cs.length + 2) cs with
  | some (j, rest) => if (skipGap rest).isEmpty then some j else none
  | none => none

end PinLedger.Json

/-
# TOML texts, numbers and dates

Reading functions for the scalars of TOML. Each takes the characters from its scalar on and gives
back those behind it. A whole number in base ten may have so many digits and no more.

Key definitions: `Toml.Fault`, `Toml.readText?`, `Toml.readNumber`, `Toml.readStamp?`.
-/
import PinLedger.Document.Calendar

namespace PinLedger.Toml

open Document

/-- Why a text is no document. -/
inductive Fault where
  /-- It is not well-formed. -/
  | malformed
  /-- A number has too many digits. -/
  | outOfRange
deriving DecidableEq, Repr

/-- What was read, if anything was. -/
def wellFormed {α : Type} : Option α → Except Fault α
  | some a => .ok a
  | none => .error .malformed

/-- A blank inside a line. -/
def isGap (c : Char) : Bool := c == ' ' || c == '\t'

/-- Drops blanks inside a line. -/
def skipGap (cs : List Char) : List Char := cs.dropWhile isGap

/-- A control character other than the tab. -/
def isControl (c : Char) : Bool := (c.toNat < 0x20 && c != '\t') || c.toNat == 0x7F

/-- Does one text stand in front of another? -/
def startsWith (s : String) (cs : List Char) : Bool := s.toList.isPrefixOf cs

/-! ### Texts -/

/-- The character of a single-letter escape. -/
def simpleEscape? : Char → Option Char
  | 'b' => some '\x08'
  | 't' => some '\t'
  | 'n' => some '\n'
  | 'f' => some '\x0c'
  | 'r' => some '\r'
  | '"' => some '"'
  | '\\' => some '\\'
  | _ => none

/-- Reads the code point that hexadecimal digits give. -/
def readCode? (digits : Nat) (cs : List Char) : Option (Char × List Char) := do
  let ds ← (cs.take digits).mapM Number.digit?
  if ds.length < digits || ds.any (16 ≤ ·) then none
  let n := ds.foldl (fun n d => n * 16 + d) 0
  if n < 0xD800 ∨ (0xE000 ≤ n ∧ n < 0x110000) then some (Char.ofNat n, cs.drop digits) else none

/-- Reads the escape behind a backslash. In a text of several lines a backslash at the end of a
line drops the blanks up to the next character. -/
def readEscape? (multiline : Bool) (cs : List Char) : Option (List Char × List Char) :=
  match cs with
  | [] => none
  | c :: rest =>
    if multiline && (isGap c || c == '\n') then
      match skipGap cs with
      | [] => some ([], [])
      | '\n' :: more => some ([], more.dropWhile fun d => isGap d || d == '\n')
      | _ => none
    else if c = 'u' then (readCode? 4 rest).map fun p => ([p.1], p.2)
    else if c = 'U' then (readCode? 8 rest).map fun p => ([p.1], p.2)
    else (simpleEscape? c).map fun d => ([d], rest)

/-- Reads the inside of a text with escapes up to its end; `acc` holds what was read, last
first. -/
def readQuoted? (multiline : Bool) : Nat → List Char → List Char →
    Option (List Char × List Char)
  | 0, _, _ => none
  | fuel + 1, acc, cs =>
    match cs with
    | [] => none
    | '"' :: rest =>
      if !multiline then some (acc.reverse, rest)
      else if startsWith "\"\"" rest then some (acc.reverse, rest.drop 2)
      else readQuoted? multiline fuel ('"' :: acc) rest
    | '\\' :: rest => do
      let (escaped, rest) ← readEscape? multiline rest
      readQuoted? multiline fuel (escaped.reverse ++ acc) rest
    | c :: rest =>
      if isControl c && !(multiline && c == '\n') then none
      else readQuoted? multiline fuel (c :: acc) rest

/-- Reads the inside of a text without escapes up to its end. -/
def readLiteral? (multiline : Bool) : List Char → List Char → Option (List Char × List Char)
  | _, [] => none
  | acc, c :: rest =>
    if c = '\'' ∧ (!multiline || startsWith "''" rest) then
      some (acc.reverse, rest.drop (if multiline then 2 else 0))
    else if isControl c && !(multiline && c == '\n') then none
    else readLiteral? multiline (c :: acc) rest

/-- Up to two quotes behind the end of a text of several lines belong to the text. -/
def addQuotes (mark : Char) (p : List Char × List Char) : List Char × List Char :=
  let extra := (p.2.take 2).takeWhile (· == mark)
  (p.1 ++ extra, p.2.drop extra.length)

/-- Drops a line feed in front. -/
def skipFirstLine : List Char → List Char
  | '\n' :: rest => rest
  | cs => cs

/-- Reads a text on one line. -/
def readLine? (cs : List Char) : Option (String × List Char) :=
  match cs with
  | '"' :: rest =>
    (readQuoted? false (rest.length + 1) [] rest).map fun p => (String.ofList p.1, p.2)
  | '\'' :: rest => (readLiteral? false [] rest).map fun p => (String.ofList p.1, p.2)
  | _ => none

/-- Reads a text. -/
def readText? (cs : List Char) : Option (String × List Char) :=
  if startsWith "\"\"\"" cs then
    let rest := skipFirstLine (cs.drop 3)
    (readQuoted? true (rest.length + 1) [] rest).map fun p =>
      let (s, more) := addQuotes '"' p
      (String.ofList s, more)
  else if startsWith "'''" cs then
    (readLiteral? true [] (skipFirstLine (cs.drop 3))).map fun p =>
      let (s, more) := addQuotes '\'' p
      (String.ofList s, more)
  else readLine? cs

/-! ### Numbers -/

/-- Is the character a digit of a base? -/
def isDigitOf (base : Nat) (c : Char) : Bool := ((Number.digit? c).getD base) < base

/-- Reads digits of a base, with single low lines between them. -/
def readDigits (base : Nat) : List Char → List Char × List Char
  | '_' :: c :: rest =>
    if isDigitOf base c then
      let (ds, more) := readDigits base rest
      (c :: ds, more)
    else ([], '_' :: c :: rest)
  | c :: rest =>
    if isDigitOf base c then
      let (ds, more) := readDigits base rest
      (c :: ds, more)
    else ([], c :: rest)
  | [] => ([], [])

/-- Reads digits of a base that start with a digit. -/
def readNumeral? (base : Nat) (cs : List Char) : Option (List Char × List Char) :=
  match cs with
  | c :: _ => if isDigitOf base c then some (readDigits base cs) else none
  | [] => none

/-- Reads a whole number in a base other than ten. -/
def readBased? (mark : Char) (base : Nat) (cs : List Char) : Option (Value × List Char) :=
  match cs with
  | '0' :: m :: rest =>
    if m = mark then
      (readNumeral? base rest).map fun p => (.int (Number.ofDigits base p.1), p.2)
    else none
  | _ => none

/-- Reads the fraction of a number. -/
def readFraction (cs : List Char) : List Char × List Char :=
  match cs with
  | '.' :: rest => (readNumeral? 10 rest).getD ([], cs)
  | _ => ([], cs)

/-- Reads a sign, true for minus. -/
def readSign (cs : List Char) : Bool × List Char :=
  match cs with
  | '-' :: rest => (true, rest)
  | '+' :: rest => (false, rest)
  | _ => (false, cs)

/-- Reads the exponent of a number. -/
def readExponent (cs : List Char) : Option Int × List Char :=
  match cs with
  | e :: rest =>
    if e == 'e' || e == 'E' then
      let (negative, digits) := readSign rest
      match readNumeral? 10 digits with
      | some (ds, more) =>
        let n : Int := Number.ofDigits 10 ds
        (some (if negative then -n else n), more)
      | none => (none, cs)
    else (none, cs)
  | [] => (none, cs)

/-- The digits in front of the point of a decimal number. -/
def readWhole? (cs : List Char) : Option (List Char × List Char) :=
  match cs with
  | '0' :: rest => some (['0'], rest)
  | _ => readNumeral? 10 cs

/-- The decimal number with a sign and some digits in front of the point. A fraction or an exponent
behind them makes it a double, of any number of digits. -/
def readPlaces (negative : Bool) (whole cs : List Char) : Except Fault (Value × List Char) :=
  let (fraction, rest) := readFraction cs
  let (exponent, rest) := readExponent rest
  if fraction.isEmpty && exponent.isNone then
    let n : Int := Number.ofDigits 10 whole
    if Number.writtenDigits < whole.length then .error .outOfRange
    else .ok (.int (if negative then -n else n), rest)
  else .ok (.float (Number.ofNumeral negative whole fraction (exponent.getD 0)), rest)

/-- Reads one of the doubles that have names. -/
def readNamed? (cs : List Char) : Option (Value × List Char) :=
  let (negative, word) := readSign cs
  if startsWith "inf" word then
    some (.float (if negative then -1.0 / 0.0 else 1.0 / 0.0), word.drop 3)
  else if startsWith "nan" word then some (.float (0.0 / 0.0), word.drop 3)
  else none

/-- Reads a number. -/
def readNumber (cs : List Char) : Except Fault (Value × List Char) :=
  let based := (readBased? 'x' 16 cs).orElse fun _ => (readBased? 'b' 2 cs).orElse fun _ =>
    readBased? 'o' 8 cs
  match based with
  | some found => .ok found
  | none =>
    let (negative, digits) := readSign cs
    match readWhole? digits with
    | some (whole, rest) => readPlaces negative whole rest
    | none => wellFormed (readNamed? cs)

/-! ### Dates -/

/-- Reads a fixed number of digits. -/
def readFixed? (count : Nat) (cs : List Char) : Option (Nat × List Char) :=
  let ds := cs.take count
  if ds.length = count ∧ ds.all Number.isDigit then some (Number.ofDigits 10 ds, cs.drop count)
  else none

/-- Reads a fixed character. -/
def readMark? (c : Char) : List Char → Option (List Char)
  | d :: rest => if c = d then some rest else none
  | [] => none

/-- The millionths of a second that the digits of a fraction give; further digits do not count. -/
def microsOf (ds : List Char) : Nat :=
  Number.ofDigits 10 (ds.take 6 ++ List.replicate (6 - ds.length) '0')

/-- Reads a time of day. -/
def readClock? (cs : List Char) : Option (Clock × List Char) := do
  let (hour, rest) ← readFixed? 2 cs
  let (minute, rest) ← readFixed? 2 (← readMark? ':' rest)
  let (second, rest) ← readFixed? 2 (← readMark? ':' rest)
  if 24 ≤ hour ∨ 60 ≤ minute ∨ 60 ≤ second then none
  match rest with
  | '.' :: more =>
    let ds := more.takeWhile Number.isDigit
    if ds.isEmpty then some (⟨hour, minute, second, 0, none⟩, rest)
    else some (⟨hour, minute, second, microsOf ds, none⟩, more.drop ds.length)
  | _ => some (⟨hour, minute, second, 0, none⟩, rest)

/-- Reads the distance to universal time, in seconds. -/
def readOffset? (cs : List Char) : Option (Int × List Char) :=
  match cs with
  | c :: rest =>
    if c == 'Z' || c == 'z' then some (0, rest)
    else if c == '+' || c == '-' then do
      let (hour, rest) ← readFixed? 2 rest
      let (minute, rest) ← readFixed? 2 (← readMark? ':' rest)
      if 24 ≤ hour ∨ 60 ≤ minute then none
      let seconds : Int := hour * 3600 + minute * 60
      some (if c == '-' then -seconds else seconds, rest)
    else none
  | [] => none

/-- Reads a day of the form `year-month-day`. -/
def readDay? (cs : List Char) : Option (Day × List Char) := do
  let (year, rest) ← readFixed? 4 cs
  let (month, rest) ← readFixed? 2 (← readMark? '-' rest)
  let (day, rest) ← readFixed? 2 (← readMark? '-' rest)
  if month = 0 ∨ 12 < month ∨ day = 0 ∨ 31 < day then none
  some (⟨year, month, day⟩, rest)

/-- Reads a day with or without a time of day. The flag tells whether there is such a day. -/
def readMoment? (cs : List Char) : Option (Stamp × Bool × List Char) := do
  let (day, rest) ← readDay? cs
  let alone := (Stamp.day day, day.isValid, rest)
  match rest with
  | c :: more =>
    if c == 'T' || c == 't' || c == ' ' then
      match readClock? more with
      | some (clock, rest) =>
        match readOffset? rest with
        | some (offset, rest) =>
          some (.moment day { clock with offset := offset }, day.isValid, rest)
        | none => some (.moment day clock, day.isValid, rest)
      | none => some alone
    else some alone
  | [] => some alone

/-- Reads a day, a time of day or both. -/
def readStamp? (cs : List Char) : Option (Stamp × Bool × List Char) :=
  match readMoment? cs with
  | some found => some found
  | none => (readClock? cs).map fun p => (.clock p.1, true, p.2)

end PinLedger.Toml

/-
# Reading values leniently, with every fault

A value is read as what a field is declared to be. Readings are lenient where no meaning is lost:
an integer may be written as a numeral in a text, a truth value as one of a few words. A reading of
a list or of several fields goes on after a fault, so that all faults are reported, in order.

Key definitions: `FaultKind`, `Step`, `Fault`, `Checked`, `Value.asText`, `Value.asInt`,
`Value.asBool`, `Value.asListOf`, `Value.asTableOf`.
Key theorems: `Checked.apply_eq_ok_iff`, `Checked.each_eq_ok_iff`.
-/
import PinLedger.Document.Display
import PinLedger.Text.Blank

namespace PinLedger.Document

/-- What is wrong with a value. -/
inductive FaultKind where
  | missing
  | textExpected
  | textEncoding
  | intExpected
  | intNumeral
  | intNumeralLong
  | intFraction
  | finiteExpected
  | boolExpected
  | boolWord
  | listExpected
  | tableExpected
  | modelExpected
  | choice
  | contradiction
deriving DecidableEq, Repr, Inhabited

/-- The short name of a fault. -/
def FaultKind.word : FaultKind → String
  | .missing => "missing"
  | .textExpected => "string_type"
  | .textEncoding => "string_unicode"
  | .intExpected => "int_type"
  | .intNumeral => "int_parsing"
  | .intNumeralLong => "int_parsing_size"
  | .intFraction => "int_from_float"
  | .finiteExpected => "finite_number"
  | .boolExpected => "bool_type"
  | .boolWord => "bool_parsing"
  | .listExpected => "list_type"
  | .tableExpected => "dict_type"
  | .modelExpected => "model_type"
  | .choice => "enum"
  | .contradiction => "value_error"

/-- One step of the way from the document to a value inside it. -/
inductive Step where
  | field (name : String)
  | index (i : Int)
deriving DecidableEq, Repr, Inhabited

/-- A fault and the way to the value that has it. -/
structure Fault where
  location : List Step
  kind : FaultKind
deriving DecidableEq, Repr, Inhabited

/-- The outcome of reading a value: what it is read as, or all its faults. -/
abbrev Checked (α : Type) := Except (List Fault) α

namespace Checked

/-- A reading that ends in one fault of the value itself. -/
def fault {α : Type} (kind : FaultKind) : Checked α := .error [⟨[], kind⟩]

/-- Puts a step in front of the location of every fault. -/
def within {α : Type} (step : Step) : Checked α → Checked α
  | .ok a => .ok a
  | .error fs => .error (fs.map fun f => { f with location := step :: f.location })

/-- Applies what the first reading gives to what the second gives; faults of both are kept. -/
def apply {α β : Type} : Checked (α → β) → Checked α → Checked β
  | .ok f, .ok a => .ok (f a)
  | .ok _, .error fs => .error fs
  | .error fs, .ok _ => .error fs
  | .error fs, .error gs => .error (fs ++ gs)

/-- Reads every item, numbered from `start`. -/
def each {α β : Type} (f : α → Checked β) (start : Nat) : List α → Checked (List β)
  | [] => .ok []
  | a :: as =>
    apply (apply (.ok fun b bs => b :: bs) (within (.index start) (f a))) (each f (start + 1) as)

theorem apply_eq_ok_iff {α β : Type} {f : Checked (α → β)} {a : Checked α} {b : β} :
    apply f a = .ok b ↔ ∃ g x, f = .ok g ∧ a = .ok x ∧ g x = b := by
  cases f <;> cases a <;> simp [apply]

theorem within_eq_ok_iff {α : Type} {step : Step} {c : Checked α} {a : α} :
    within step c = .ok a ↔ c = .ok a := by
  cases c <;> simp [within]

theorem each_eq_ok_iff {α β : Type} {f : α → Checked β} {start : Nat} {as : List α}
    {bs : List β} : each f start as = .ok bs ↔ as.map f = bs.map Except.ok := by
  induction as generalizing start bs with
  | nil => cases bs <;> simp [each]
  | cons a as ih =>
    cases bs with
    | nil => simp [each, apply_eq_ok_iff]
    | cons b bs =>
      simp only [each, apply_eq_ok_iff, within_eq_ok_iff, ih, List.map_cons, List.cons.injEq]
      constructor
      · rintro ⟨_, tail, ⟨_, head, hf, hhead, rfl⟩, htail, heq⟩
        cases hf
        simp only [List.cons.injEq] at heq
        exact ⟨heq.1 ▸ hhead, heq.2 ▸ htail⟩
      · rintro ⟨hhead, htail⟩
        exact ⟨_, bs, ⟨_, b, rfl, hhead, rfl⟩, htail, rfl⟩

end Checked

/-- Decodes UTF-8, `none` for octets that are not. -/
def decodeUtf8? (octets : List UInt8) : Option String :=
  String.fromUTF8? (ByteArray.mk octets.toArray)

namespace Value

/-- Reads a text. -/
def asText : Value → Checked String
  | .text s => .ok s
  | .bytes octets =>
    match decodeUtf8? octets with
    | some s => .ok s
    | none => Checked.fault .textEncoding
  | _ => Checked.fault .textExpected

/-- The digits of a numeral without the zeros in front, `none` if it does not start like one. A sign
may stand behind the zeros. -/
def dropZeros : List Char → Option (List Char)
  | '0' :: rest => afterZero rest
  | c :: rest => if Number.isDigit c then some (c :: rest) else none
  | [] => none
where
  /-- Goes on behind a zero; a low line between zeros is passed over. -/
  afterZero : List Char → Option (List Char)
    | [] => some ['0']
    | ['_'] | '_' :: '.' :: _ => none
    | '0' :: rest => afterZero rest
    | '_' :: rest => afterZero rest
    | '.' :: rest => some ('0' :: '.' :: rest)
    | c :: rest => if Number.isDigit c || c == '-' then some (c :: rest) else none

/-- Drops a point with zeros and nothing else behind it. -/
def dropZeroFraction (cs : List Char) : List Char :=
  let whole := cs.takeWhile (· != '.')
  match cs.drop (whole.length + 1) with
  | [] => cs
  | zeros => if zeros.all (· == '0') then whole else cs

/-- Are the low lines of a numeral single and between other characters? -/
def lowLinesInside (cs : List Char) : Bool :=
  cs.head? != some '_' && cs.getLast? != some '_' && !(cs.zip cs.tail).contains ('_', '_')

/-- The digits of a numeral behind a sign. -/
def digitsOf? : List Char → Option (List Char)
  | '0' :: _ :: _ => none
  | cs => if !cs.isEmpty && cs.all Number.isDigit then some cs else none

/-- The sign and the digits of a numeral: a sign, digits with single low lines between them, and at
most a fraction of zeros. -/
def numeral? (s : String) : Option (Bool × List Char) := do
  let (negative, unsigned) := match Text.trimBoth Text.isSpace s.toList with
    | '+' :: rest => (false, rest)
    | '-' :: rest => (true, rest)
    | cs => (false, cs)
  let body := dropZeroFraction (← dropZeros unsigned)
  let plain := if lowLinesInside body then body.filter (· != '_') else body
  match plain, negative with
  | '-' :: _, true => none
  | '-' :: rest, false => return (true, ← digitsOf? rest)
  | _, _ => return (negative, ← digitsOf? plain)

/-- The most characters of a numeral, its sign among them if it is negative. -/
def maxNumeral : Nat := 4300

/-- Are there too many digits in front of a text, behind a minus or nothing? A text that begins with
a zero or a blank has none in front. -/
def hasLongFront (cs : List Char) : Bool :=
  let (sign, rest) := match cs with
    | '-' :: rest => (1, rest)
    | _ => (0, cs)
  rest.head? != some '0' && maxNumeral < sign + (rest.takeWhile Number.isDigit).length

/-- The first integer that does not fit into a signed word of 64 bits. -/
def wordLimit : Int := 9223372036854775808

/-- Reads an integer: also from a truth value, a whole double of less than 63 bits, and a
numeral. -/
def asInt : Value → Checked Int
  | .int i => .ok i
  | .bool b => .ok (if b then 1 else 0)
  | .float x =>
    if !Number.isFinite x then Checked.fault .finiteExpected
    else match Number.wholeOf? x with
      | none => Checked.fault .intFraction
      | some i => if -wordLimit < i ∧ i < wordLimit then .ok i else Checked.fault .intNumeralLong
  | .text s => numeral s
  | .bytes octets =>
    match decodeUtf8? octets with
    | some s => numeral s
    | none => Checked.fault .intNumeral
  | _ => Checked.fault .intExpected
where
  /-- Reads a text as a numeral. One that is too long is told from other texts only if its digits
  are in front. -/
  numeral (s : String) : Checked Int :=
    if hasLongFront s.toList then Checked.fault .intNumeralLong
    else match numeral? s with
    | none => Checked.fault .intNumeral
    | some (negative, digits) =>
      if maxNumeral < digits.length + (if negative then 1 else 0) then Checked.fault .intNumeral
      else
        let n : Int := Number.ofDigits 10 digits
        .ok (if negative then -n else n)

/-- The words for truth values. -/
def boolOfWord? (s : String) : Option Bool :=
  let word := String.ofList (s.toList.map Char.toLower)
  if ["0", "off", "f", "false", "n", "no"].contains word then some false
  else if ["1", "on", "t", "true", "y", "yes"].contains word then some true
  else none

/-- Reads a truth value: also from 0 and 1 and from the usual words. A number that does not fit into
a word of 64 bits is none. -/
def asBool : Value → Checked Bool
  | .bool b => .ok b
  | .int i =>
    if -wordLimit ≤ i ∧ i < wordLimit then ofInt i else Checked.fault .boolExpected
  | .float x =>
    match Number.wholeOf? x with
    | some i => if -wordLimit < i ∧ i < wordLimit then ofInt i else Checked.fault .boolExpected
    | none => Checked.fault .boolExpected
  | .text s => ofWord s
  | .bytes octets =>
    match decodeUtf8? octets with
    | some s => ofWord s
    | none => Checked.fault .boolWord
  | _ => Checked.fault .boolExpected
where
  /-- 0 is false and 1 is true. -/
  ofInt (i : Int) : Checked Bool :=
    if i = 0 then .ok false else if i = 1 then .ok true else Checked.fault .boolWord
  /-- Reads a word. -/
  ofWord (s : String) : Checked Bool :=
    match boolOfWord? s with
    | some b => .ok b
    | none => Checked.fault .boolWord

/-- Reads null as `none`. -/
def asOptional {α : Type} (read : Value → Checked α) : Value → Checked (Option α)
  | .null => .ok none
  | v => (read v).map some

/-- Reads a list; a set is taken for the list of its members. -/
def asListOf {α : Type} (read : Value → Checked α) : Value → Checked (List α)
  | .list items => Checked.each read 0 items
  | .set items => Checked.each read 0 items
  | _ => Checked.fault .listExpected

/-- How a key is named in the location of a fault. -/
def keyStep : Value → Step
  | .text s => .field s
  | .bool b => .index (if b then 1 else 0)
  | .int i =>
    if -wordLimit ≤ i ∧ i < wordLimit then .index i
    else if Number.isTooLong i then .field "<unprintable int object>"
    else .field (toString i)
  | v => .field v.displayNested

/-- Reads the entries of a table, each key as a text. -/
def checkEntries {α : Type} (read : Value → Checked α) :
    List (Value × Value) → Checked (List (String × α))
  | [] => .ok []
  | (k, v) :: rest =>
    let key := (k.asText).mapError fun fs =>
      fs.map fun f => { f with location := [keyStep k, .field "[key]"] }
    let value := Checked.within (keyStep k) (read v)
    let entry := Checked.apply (Checked.apply (.ok Prod.mk) key) value
    Checked.apply (Checked.apply (.ok fun e es => e :: es) entry) (checkEntries read rest)

/-- Reads a table with texts as keys. Of keys that are read as one text, the first gives the place
and the last the value. -/
def asTableOf {α : Type} (read : Value → Checked α) : Value → Checked (List (String × α))
  | .table entries =>
    (checkEntries read entries).map fun es => es.foldl (fun fs e => putField fs e.1 e.2) []
  | _ => Checked.fault .tableExpected

/-- Reads any value. -/
def asAny (v : Value) : Checked Value := .ok v

end Value

/-- The fields of a table with text keys. -/
abbrev Fields := List (String × Value)

namespace Fields

/-- The value of a field. -/
def get? (fields : Fields) (name : String) : Option Value := fields.lookup name

/-- Reads a field that has to be there. -/
def required {α : Type} (fields : Fields) (name : String) (read : Value → Checked α) : Checked α :=
  Checked.within (.field name) <| match fields.get? name with
    | some v => read v
    | none => Checked.fault .missing

/-- Reads a field that may be left out. -/
def optional {α : Type} (fields : Fields) (name : String) (default : α)
    (read : Value → Checked α) : Checked α :=
  match fields.get? name with
  | some v => Checked.within (.field name) (read v)
  | none => .ok default

end Fields

/-- The fields of a value that stands for a record: the entries of a table with text keys. -/
def Value.asRecord : Value → Checked Fields
  | .table entries => .ok (entries.filterMap fun e => match e.1 with
    | .text name => some (name, e.2)
    | _ => none)
  | _ => Checked.fault .modelExpected

end PinLedger.Document

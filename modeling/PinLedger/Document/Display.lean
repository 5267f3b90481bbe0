/-
# The text of a value

How a value is shown where a text is wanted. A text is shown as it is; inside a list or a table it
is quoted. Doubles take the shortest numeral that reads back, positional from `0.0001` up to
sixteen digits before the point. A value is written only if no integer in it has more digits than
are written out.

Key definitions: `Value.display`, `Value.displayNested`, `Value.isWritten`, `Stamp.display`.
-/
import PinLedger.Document.Value
import PinLedger.Text.Quoted

namespace PinLedger.Document

/-- The layout of doubles: positional from `10 ^ -4` to below `10 ^ 16`, two exponent digits. -/
def doubleFormat : Number.DoubleFormat where
  leastPlace := -4
  mostPlace := 15
  exponentDigits := 2
  notANumber := "nan"
  infinity := "inf"

/-- A number with zeros in front up to a width. -/
def padded (width n : Nat) : String :=
  String.ofList (Number.padDigits width (Nat.toDigits 10 n))

namespace Stamp

/-- A day as `year-month-day`. -/
def displayDay (d : Day) : String :=
  padded 4 d.year ++ "-" ++ padded 2 d.month ++ "-" ++ padded 2 d.day

/-- A distance to universal time as `+hours:minutes`. -/
def displayOffset (offset : Int) : String :=
  let size := offset.natAbs
  let seconds := if size % 60 = 0 then "" else ":" ++ padded 2 (size % 60)
  (if offset < 0 then "-" else "+") ++ padded 2 (size / 3600) ++ ":"
    ++ padded 2 (size / 60 % 60) ++ seconds

/-- A time of day; the fraction of a second is written only if there is one. -/
def displayClock (t : Clock) : String :=
  let fraction := if t.micro = 0 then "" else "." ++ padded 6 t.micro
  padded 2 t.hour ++ ":" ++ padded 2 t.minute ++ ":" ++ padded 2 t.second ++ fraction
    ++ (t.offset.map displayOffset).getD ""

/-- The text of a stamp. -/
def display : Stamp → String
  | .day d => displayDay d
  | .moment d t => displayDay d ++ " " ++ displayClock t
  | .clock t => displayClock t

/-- A distance to universal time by its parts. -/
def zoneParts (offset : Int) : String :=
  if offset = 0 then "datetime.timezone.utc"
  else
    let days := Int.fdiv offset 86400
    let rest := Int.fmod offset 86400
    let dayPart := if days = 0 then [] else ["days=" ++ toString days]
    let restPart := if rest = 0 then [] else ["seconds=" ++ toString rest]
    "datetime.timezone(datetime.timedelta(" ++ ", ".intercalate (dayPart ++ restPart) ++ "))"

/-- The numbers of a time of day, without the zeros at the end that go without saying. -/
def clockParts (t : Clock) : List String :=
  let small :=
    if t.micro ≠ 0 then [t.second, t.micro] else if t.second ≠ 0 then [t.second] else []
  (t.hour :: t.minute :: small).map toString
    ++ (t.offset.map fun o => "tzinfo=" ++ zoneParts o).toList

/-- A stamp by its parts, the form inside a list. -/
def displayNested : Stamp → String
  | .day d => "datetime.date(" ++ ", ".intercalate ([d.year, d.month, d.day].map toString) ++ ")"
  | .moment d t =>
    "datetime.datetime("
      ++ ", ".intercalate ([d.year, d.month, d.day].map toString ++ clockParts t) ++ ")"
  | .clock t => "datetime.time(" ++ ", ".intercalate (clockParts t) ++ ")"

end Stamp

namespace Value

mutual

/-- The text of a value inside a list or a table. -/
def displayNested : Value → String
  | .null => "None"
  | .bool b => if b then "True" else "False"
  | .int i => toString i
  | .float x => doubleFormat.write x
  | .text s => Text.quoted s
  | .bytes octets => Text.quotedOctets octets
  | .stamp s => s.displayNested
  | .list items => "[" ++ ", ".intercalate (displayItems items) ++ "]"
  | .set items =>
    if items.isEmpty then "set()" else "\x7b" ++ ", ".intercalate (displayItems items) ++ "\x7d"
  | .table entries => "\x7b" ++ ", ".intercalate (displayEntries entries) ++ "\x7d"

/-- The texts of the items of a list. -/
def displayItems : List Value → List String
  | [] => []
  | v :: vs => displayNested v :: displayItems vs

/-- The texts of the entries of a table. -/
def displayEntries : List (Value × Value) → List String
  | [] => []
  | (k, v) :: es => (displayNested k ++ ": " ++ displayNested v) :: displayEntries es

end

/-- The text of a value by itself, where it is written. -/
def display : Value → String
  | .text s => s
  | .stamp s => s.display
  | v => v.displayNested

mutual

/-- Is a value written: has no integer in it too many digits? -/
def isWritten : Value → Bool
  | .int i => !Number.isTooLong i
  | .list items => areWritten items
  | .set items => areWritten items
  | .table entries => entriesAreWritten entries
  | _ => true

/-- Are all items of a list written? -/
def areWritten : List Value → Bool
  | [] => true
  | v :: vs => isWritten v && areWritten vs

/-- Are all keys and values of a table written? -/
def entriesAreWritten : List (Value × Value) → Bool
  | [] => true
  | (k, v) :: es => isWritten k && isWritten v && entriesAreWritten es

end

@[simp] theorem isWritten_text (s : String) : (text s).isWritten = true := by simp [isWritten]

end Value

end PinLedger.Document

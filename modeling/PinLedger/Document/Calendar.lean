/-
# Days that exist

Key definitions: `daysInMonth`, `Day.isValid`, `Clock.isValid`.
-/
import PinLedger.Document.Value

namespace PinLedger.Document

/-- Every fourth year is a leap year, but of the hundreds only every fourth. -/
def isLeapYear (year : Nat) : Bool :=
  year % 4 == 0 && (year % 100 != 0 || year % 400 == 0)

/-- The number of days of a month. -/
def daysInMonth (year month : Nat) : Nat :=
  if month = 2 then (if isLeapYear year then 29 else 28)
  else if month = 4 ∨ month = 6 ∨ month = 9 ∨ month = 11 then 30
  else 31

/-- Is it a day of the years 1 to 9999? -/
def Day.isValid (d : Day) : Bool :=
  1 ≤ d.year && d.year ≤ 9999 && 1 ≤ d.month && d.month ≤ 12
    && 1 ≤ d.day && d.day ≤ daysInMonth d.year d.month

/-- Is it a time of day, less than a day away from universal time? -/
def Clock.isValid (t : Clock) : Bool :=
  t.hour < 24 && t.minute < 60 && t.second < 60
    && (match t.offset with
      | some o => o.natAbs < 86400
      | none => true)

end PinLedger.Document

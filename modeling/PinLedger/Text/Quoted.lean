/-
# Quoted texts

A text between quotes, on one line and with every character visible. Single quotes are used unless
the text holds one and holds no double quote.

Key definitions: `quoteMark`, `quoteChar`, `quoted`.
-/
import PinLedger.Text.PrintableTable

namespace PinLedger.Text

/-- `n` in base sixteen with at least `width` digits. -/
def hex (width n : Nat) : List Char :=
  let digits := Nat.toDigits 16 n
  List.replicate (width - digits.length) '0' ++ digits

/-- The quote that a text is put between. -/
def quoteMark (cs : List Char) : Char :=
  if cs.contains '\'' && !cs.contains '"' then '"' else '\''

/-- A character inside a quoted text. -/
def quoteChar (mark c : Char) : List Char :=
  if c = mark ∨ c = '\\' then ['\\', c]
  else if c = '\n' then ['\\', 'n']
  else if c = '\r' then ['\\', 'r']
  else if c = '\t' then ['\\', 't']
  else if unprintableSet.has c then
    if c.toNat ≤ 0xFF then '\\' :: 'x' :: hex 2 c.toNat
    else if c.toNat ≤ 0xFFFF then '\\' :: 'u' :: hex 4 c.toNat
    else '\\' :: 'U' :: hex 8 c.toNat
  else [c]

/-- A text between quotes. -/
def quoted (s : String) : String :=
  let cs := s.toList
  let mark := quoteMark cs
  String.ofList (mark :: cs.flatMap (quoteChar mark) ++ [mark])

/-- Octets between quotes, after the letter `b`. -/
def quotedOctets (octets : List UInt8) : String :=
  let cs := octets.map fun o => Char.ofNat o.toNat
  let mark := quoteMark cs
  let body := cs.flatMap fun c =>
    if c.toNat < 0x7F then quoteChar mark c else '\\' :: 'x' :: hex 2 c.toNat
  String.ofList ('b' :: mark :: body ++ [mark])

end PinLedger.Text

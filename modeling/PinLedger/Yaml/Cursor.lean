/-
# A place in a YAML text

A cursor is the rest of a text with the number of characters passed, the line and the column. The
byte order mark takes no column. A text may be readable in part only, so every look at a character
is a step that may end in a fault; going on meets the character behind those that are passed.

Key definitions: `Reading`, `Cursor`, `Scan`, `Scan.peek`, `Scan.skip`, `Scan.readBreak`.
-/
import PinLedger.Yaml.Source

namespace PinLedger.Yaml

/-- A character that ends a line. -/
def isBreak (c : Char) : Bool :=
  c == '\n' || c == '\r' || c == '\u0085' || c == '\u2028' || c == '\u2029'

/-- A blank inside a line. -/
def isGap (c : Char) : Bool := c == ' ' || c == '\t'

/-- The end of the text, a blank or the end of a line. -/
def endsWord : Option Char → Bool
  | some c => isGap c || isBreak c
  | none => true

/-- The end of the text, a space or the end of a line. -/
def endsPlainly : Option Char → Bool
  | some c => c == ' ' || isBreak c
  | none => true

/-- The end of the text or of a line. -/
def endsLine : Option Char → Bool
  | some c => isBreak c
  | none => true

/-- Steps that change a state, or end in a fault. -/
abbrev Reading (σ : Type) := StateT σ (Except Fault)

namespace Reading

variable {σ τ α : Type}

/-- The text is not well-formed. -/
def malformed : Reading σ α := throw .malformed

/-- The text is not well-formed unless something holds. -/
def require (b : Bool) : Reading σ Unit := if b then return () else malformed

/-- Steps on a part of the state. -/
def within (part : σ → τ) (put : τ → σ → σ) (m : Reading τ α) : Reading σ α := fun s => do
  let (a, t) ← m (part s)
  return (a, put t s)

end Reading

/-- A place in a text. -/
structure Cursor where
  rest : List Char
  /-- The fault that reading on behind the rest ends in, if it does. -/
  fault : Option Fault
  /-- The length of the whole text, which bounds every loop over it. -/
  size : Nat
  index : Nat
  line : Nat
  column : Nat
deriving Repr

namespace Cursor

/-- The start of a text. -/
def ofSource (s : Source) : Cursor := ⟨s.chars, s.fault, s.chars.length, 0, 0, 0⟩

/-- One character on. -/
def next (c : Cursor) : Cursor :=
  match c.rest with
  | [] => c
  | d :: more =>
    if isBreak d && !(d == '\r' && more.head? == some '\n') then
      { c with rest := more, index := c.index + 1, line := c.line + 1, column := 0 }
    else if d == '\uFEFF' then { c with rest := more, index := c.index + 1 }
    else { c with rest := more, index := c.index + 1, column := c.column + 1 }

/-- Some characters on. -/
def after (c : Cursor) : Nat → Cursor
  | 0 => c
  | n + 1 => c.next.after n

end Cursor

/-- Steps that read a text. -/
abbrev Scan := Reading Cursor

namespace Scan

/-- The character `n` places on, nothing behind the end of the text. -/
def peek (n : Nat := 0) : Scan (Option Char) := fun c =>
  match c.rest[n]?, c.fault with
  | none, some fault => .error fault
  | d, _ => .ok (d, c)

/-- Is a character the next one? -/
def isAt (d : Char) : Scan Bool := return (← peek) == some d

/-- Goes some characters on, and meets the one behind them. -/
def skip (n : Nat := 1) : Scan Unit := do
  let _ ← peek n
  modify fun c => c.after n

/-- Reads the characters in front that pass a test. -/
def takeWhile (p : Char → Bool) : Scan (List Char) := do
  let cs := (← get).rest.takeWhile p
  skip cs.length
  return cs

/-- Goes behind the characters in front that pass a test. -/
def skipWhile (p : Char → Bool) : Scan Unit := do
  let _ ← takeWhile p

/-- Goes to the end of the line. -/
def skipLine : Scan Unit := skipWhile fun d => !isBreak d

/-- Is it at the end of a line? -/
def atBreak : Scan Bool := return ((← peek).map isBreak).getD false

/-- Goes behind the end of a line, and gives what it counts as: a line feed for most. Nothing
happens inside a line. -/
def readBreak : Scan (List Char) := do
  match ← peek with
  | none => return []
  | some d =>
    if d == '\u2028' || d == '\u2029' then
      skip
      return [d]
    else if isBreak d then
      let next ← peek 1
      skip (if d == '\r' && next == some '\n' then 2 else 1)
      return ['\n']
    else return []

/-- Do three marks that begin or end a document stand in front? -/
def atDocumentMark : Scan Bool := do
  let _ ← peek 2
  let front := (← get).rest.take 3
  if front == ['-', '-', '-'] || front == ['.', '.', '.'] then return endsWord (← peek 3)
  else return false

/-- Drops blanks and a comment behind them. -/
def skipComment : Scan Unit := do
  skipWhile (· == ' ')
  if ← isAt '#' then skipLine

end Scan

end PinLedger.Yaml

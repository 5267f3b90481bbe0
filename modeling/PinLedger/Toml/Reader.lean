/-
# Reading TOML

A TOML document is a list of lines: headers, which open tables, and names with values, which go
into the table opened last.

Key definitions: `Toml.readKey?`, `Toml.readValue`, `Toml.parse`.
-/
import PinLedger.Toml.Draft
import PinLedger.Toml.Scalar

namespace PinLedger.Toml

open Document

/-! ### Names, gaps and comments -/

/-- A character of a name without quotes. -/
def isBare (c : Char) : Bool := c.isAlphanum || c == '-' || c == '_'

/-- Reads one part of a dotted name. -/
def readKeyPart? (cs : List Char) : Option (String × List Char) :=
  let bare := cs.takeWhile isBare
  if bare.isEmpty then readLine? cs else some (String.ofList bare, cs.drop bare.length)

/-- Reads a dotted name and the blanks behind it. -/
def readKey? : Nat → List Char → Option (Key × List Char)
  | 0, _ => none
  | fuel + 1, cs => do
    let (part, rest) ← readKeyPart? cs
    match skipGap rest with
    | '.' :: more =>
      let (parts, rest) ← readKey? fuel (skipGap more)
      some (part :: parts, rest)
    | rest => some ([part], rest)

/-- Drops a comment up to the end of its line. -/
def skipComment? (cs : List Char) : Option (List Char) :=
  match cs with
  | '#' :: rest =>
    let body := rest.takeWhile (· != '\n')
    if body.any isControl then none else some (rest.drop body.length)
  | _ => some cs

/-- Drops blanks, line feeds and comments. -/
def skipLines? : Nat → List Char → Option (List Char)
  | 0, cs => some cs
  | fuel + 1, cs => do
    match cs.dropWhile (fun c => isGap c || c == '\n') with
    | '#' :: rest =>
      let rest ← skipComment? ('#' :: rest)
      skipLines? fuel rest
    | rest => some rest

/-! ### Values -/

/-- An inline table under construction: its entries and the names whose values are complete. -/
structure Inline where
  entries : Entries
  complete : List Key

/-- Sets a value in an inline table. -/
def Inline.set? (t : Inline) (key : Key) (value : Value) : Option Inline :=
  if t.complete.any fun k => k.isPrefixOf key then none
  else
    (changeAt? false (addNew? (key.getLast?.getD "") value) key.dropLast t.entries).map fun es =>
      ⟨es, if isNest value then key :: t.complete else t.complete⟩

mutual

/-- Reads a value. -/
def readValue : Nat → List Char → Except Fault (Value × List Char)
  | 0, _ => .error .malformed
  | fuel + 1, cs =>
    match cs with
    | '"' :: _ | '\'' :: _ => wellFormed ((readText? cs).map fun p => (.text p.1, p.2))
    | '[' :: rest => do
      match ← wellFormed (skipLines? rest.length rest) with
      | ']' :: more => return (.list [], more)
      | rest =>
        let (items, more) ← readItems fuel rest
        return (.list items, more)
    | '\x7b' :: rest =>
      match skipGap rest with
      | '\x7d' :: more => .ok (.table [], more)
      | rest => readInline fuel ⟨[], []⟩ rest
    | _ =>
      if startsWith "true" cs then .ok (.bool true, cs.drop 4)
      else if startsWith "false" cs then .ok (.bool false, cs.drop 5)
      else match readStamp? cs with
        | some (stamp, valid, rest) =>
          if valid then .ok (.stamp stamp, rest) else .error .malformed
        | none => readNumber cs

/-- Reads the items of a list up to its closing bracket. -/
def readItems : Nat → List Char → Except Fault (List Value × List Char)
  | 0, _ => .error .malformed
  | fuel + 1, cs => do
    let (v, rest) ← readValue fuel cs
    match ← wellFormed (skipLines? rest.length rest) with
    | ']' :: more => return ([v], more)
    | ',' :: more =>
      match ← wellFormed (skipLines? more.length more) with
      | ']' :: more => return ([v], more)
      | more =>
        let (vs, rest) ← readItems fuel more
        return (v :: vs, rest)
    | _ => .error .malformed

/-- Reads the entries of an inline table up to its closing brace. -/
def readInline : Nat → Inline → List Char → Except Fault (Value × List Char)
  | 0, _, _ => .error .malformed
  | fuel + 1, table, cs => do
    let (key, rest) ← wellFormed (readKey? (cs.length + 1) cs)
    match rest with
    | '=' :: rest =>
      let (v, rest) ← readValue fuel (skipGap rest)
      let table ← wellFormed (table.set? key v)
      match skipGap rest with
      | '\x7d' :: more => return (.table table.entries, more)
      | ',' :: more => readInline fuel table (skipGap more)
      | _ => .error .malformed
    | _ => .error .malformed

end

/-! ### Lines -/

/-- Reads a header with two brackets or one; the result is the draft and the header's key. -/
def readHeader? (d : Draft) (cs : List Char) : Option ((Draft × Key) × List Char) :=
  match cs with
  | '[' :: '[' :: rest => do
    let (key, rest) ← readKey? (rest.length + 1) (skipGap rest)
    let d ← d.openItem? key
    match rest with
    | ']' :: ']' :: more => some ((d, key), more)
    | _ => none
  | '[' :: rest => do
    let (key, rest) ← readKey? (rest.length + 1) (skipGap rest)
    let d ← d.openTable? key
    match rest with
    | ']' :: more => some ((d, key), more)
    | _ => none
  | _ => none

/-- Reads a name with its value into the table of a header. -/
def readPair (d : Draft) (header : Key) (cs : List Char) : Except Fault (Draft × List Char) := do
  let (key, rest) ← wellFormed (readKey? (cs.length + 1) cs)
  match rest with
  | '=' :: rest =>
    let (v, rest) ← readValue (2 * rest.length + 2) (skipGap rest)
    let d ← wellFormed (d.set? header key v)
    return (d, rest)
  | _ => .error .malformed

/-- Reads the end of a line. -/
def readLineEnd? (cs : List Char) : Option (List Char) := do
  match ← skipComment? (skipGap cs) with
  | [] => some []
  | '\n' :: rest => some rest
  | _ => none

/-- Reads line after line; the header is the key of the table opened last. -/
def readLines : Nat → Draft → Key → List Char → Except Fault Draft
  | 0, _, _, _ => .error .malformed
  | fuel + 1, d, header, cs =>
    match skipGap cs with
    | [] => .ok d
    | '\n' :: rest => readLines fuel d header rest
    | '[' :: rest => do
      let ((d, header), rest) ← wellFormed (readHeader? d ('[' :: rest))
      readLines fuel d header (← wellFormed (readLineEnd? rest))
    | '#' :: rest => do readLines fuel d header (← wellFormed (readLineEnd? ('#' :: rest)))
    | cs => do
      let (d, rest) ← readPair d header cs
      readLines fuel d header (← wellFormed (readLineEnd? rest))

/-- Takes a carriage return in front of a line feed away. -/
def joinLineEnds : List Char → List Char
  | '\r' :: '\n' :: rest => '\n' :: joinLineEnds rest
  | c :: rest => c :: joinLineEnds rest
  | [] => []

/-- Reads a document, which is a table. -/
def parse (s : String) : Except Fault Value :=
  let cs := joinLineEnds s.toList
  (readLines (cs.length + 1) Draft.empty [] cs).map fun d => .table d.entries

end PinLedger.Toml

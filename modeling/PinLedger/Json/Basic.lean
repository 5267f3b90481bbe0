/-
# JSON values and their text

A JSON value keeps the fields of an object in order. `write` lays a value out either on one line
without blanks or with one item a line, indented by two blanks a level. Only quotes, backslashes
and control characters are escaped.

Key definitions: `Json`, `Json.write`, `Json.toValue`.
-/
import PinLedger.Document.Display

namespace PinLedger

/-- A JSON value. A number is whole or a double. -/
inductive Json where
  | null
  | bool (b : Bool)
  | int (i : Int)
  | float (x : Float)
  | text (s : String)
  | list (items : List Json)
  | object (fields : List (String × Json))
deriving Inhabited

namespace Json

open Document (Value)

/-- A character inside a JSON text. -/
def escape (c : Char) : List Char :=
  if c = '"' then ['\\', '"']
  else if c = '\\' then ['\\', '\\']
  else if c = '\n' then ['\\', 'n']
  else if c = '\r' then ['\\', 'r']
  else if c = '\t' then ['\\', 't']
  else if c = '\x08' then ['\\', 'b']
  else if c = '\x0c' then ['\\', 'f']
  else if c.toNat < 0x20 then '\\' :: 'u' :: Text.hex 4 c.toNat
  else [c]

/-- A text between double quotes. -/
def quote (s : String) : List Char := '"' :: s.toList.flatMap escape ++ ['"']

/-- How items are set apart. -/
inductive Layout where
  /-- All on one line. -/
  | compact
  /-- One item a line. -/
  | indented
deriving DecidableEq, Repr

/-- What stands before an item at a depth. -/
def Layout.lead : Layout → Nat → List Char
  | .compact, _ => []
  | .indented, depth => '\n' :: List.replicate (2 * depth) ' '

/-- What stands between a name and its value. -/
def Layout.colon : Layout → List Char
  | .compact => [':']
  | .indented => [':', ' ']

/-- The layout of doubles in JSON. -/
def doubleFormat : Number.DoubleFormat :=
  { Document.doubleFormat with notANumber := "NaN", infinity := "Infinity" }

mutual

/-- The characters of a value whose items stand at `depth + 1`. -/
def chars (l : Layout) (depth : Nat) : Json → List Char
  | .null => "null".toList
  | .bool b => (if b then "true" else "false").toList
  | .int i => (toString i).toList
  | .float x => (doubleFormat.write x).toList
  | .text s => quote s
  | .list items =>
    if items.isEmpty then ['[', ']']
    else '[' :: itemChars l (depth + 1) true items ++ l.lead depth ++ [']']
  | .object fields =>
    if fields.isEmpty then ['\x7b', '\x7d']
    else '\x7b' :: fieldChars l (depth + 1) true fields ++ l.lead depth ++ ['\x7d']

/-- The items of a list, each behind a comma but the first. -/
def itemChars (l : Layout) (depth : Nat) (first : Bool) : List Json → List Char
  | [] => []
  | j :: js =>
    (if first then [] else [',']) ++ l.lead depth ++ chars l depth j ++ itemChars l depth false js

/-- The fields of an object, each behind a comma but the first. -/
def fieldChars (l : Layout) (depth : Nat) (first : Bool) : List (String × Json) → List Char
  | [] => []
  | (name, j) :: fs =>
    (if first then [] else [',']) ++ l.lead depth ++ quote name ++ l.colon ++ chars l depth j
      ++ fieldChars l depth false fs

end

/-- The text of a value. -/
def write (l : Layout) (j : Json) : String := String.ofList (chars l 0 j)

mutual

/-- A JSON value as a document value. -/
def toValue : Json → Value
  | .null => .null
  | .bool b => .bool b
  | .int i => .int i
  | .float x => .float x
  | .text s => .text s
  | .list items => .list (itemValues items)
  | .object fields => .table (fieldValues fields)

/-- The items of a list as document values. -/
def itemValues : List Json → List Value
  | [] => []
  | j :: js => toValue j :: itemValues js

/-- The fields of an object as entries of a table. -/
def fieldValues : List (String × Json) → List (Value × Value)
  | [] => []
  | (name, j) :: fs => (.text name, toValue j) :: fieldValues fs

end

/-- The value of a field, `none` if there is none or the value is no object. -/
def get? (j : Json) (name : String) : Option Json :=
  match j with
  | .object fields => fields.lookup name
  | _ => none

/-- The value of a field, null if there is none. -/
def field (j : Json) (name : String) : Json := (j.get? name).getD .null

/-- The text that a value is. -/
def text? : Json → Option String
  | .text s => some s
  | _ => none

/-- The items of a list, none for any other value. -/
def items : Json → List Json
  | .list js => js
  | _ => []

/-- The fields of an object, none for any other value. -/
def entries : Json → List (String × Json)
  | .object fs => fs
  | _ => []

end Json

end PinLedger

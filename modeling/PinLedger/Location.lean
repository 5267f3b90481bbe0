/-
# Where a pypi package comes from

A location is a url or a path. A text is taken for a url if it starts with a scheme: a letter, then
letters, digits, `+`, `.` and `-`, then `://`.

Key definitions: `isUrl`, `Location`, `Location.ofText`, `Location.check`.
-/
import PinLedger.Document.Checked

namespace PinLedger

open Document

/-- An ASCII letter. -/
def isAsciiLetter (c : Char) : Bool := ('a' ≤ c && c ≤ 'z') || ('A' ≤ c && c ≤ 'Z')

/-- A character of a url scheme behind its first letter. -/
def isSchemeChar (c : Char) : Bool :=
  isAsciiLetter c || Number.isDigit c || c == '+' || c == '.' || c == '-'

/-- Does the text start with a url scheme? -/
def isUrl (s : String) : Bool :=
  match s.toList with
  | c :: cs => isAsciiLetter c && "://".toList.isPrefixOf (cs.dropWhile isSchemeChar)
  | [] => false

/-- A remote url or a local path. -/
inductive Location where
  | url (s : String)
  | path (s : String)
deriving DecidableEq, Repr, Inhabited

namespace Location

/-- Tells a url from a path. -/
def ofText (s : String) : Location := if isUrl s then .url s else .path s

/-- The url or path itself. -/
def text : Location → String
  | .url s => s
  | .path s => s

/-- The url, if it is one. -/
def url? : Location → Option String
  | .url s => some s
  | .path _ => none

/-- The path, if it is one. -/
def path? : Location → Option String
  | .url _ => none
  | .path s => some s

/-- Reads a location from the fields `url` and `path`, of which exactly one has to be given. -/
def check (fields : Fields) : Checked Location :=
  let url := fields.optional "url" none (Value.asOptional Value.asText)
  let path := fields.optional "path" none (Value.asOptional Value.asText)
  match Checked.apply (Checked.apply (.ok Prod.mk) url) path with
  | .ok (some s, none) => .ok (.url s)
  | .ok (none, some s) => .ok (.path s)
  | .ok _ => Checked.fault .contradiction
  | .error faults => .error faults

end Location

end PinLedger

/-
# The table of packages

One row for each package: its name, version, build, size, kind and source. The name of an explicit
package stands out, and a source tells if it is editable. Names, kinds and sources are shown as
they are; versions and builds are marked-up text.

Key definitions: `TableStyle`, `StyledText`, `PackageTable`, `PackageTable.ofPackages`.
-/
import PinLedger.Failure
import PinLedger.Package
import PinLedger.Table.SizeText

namespace PinLedger

open Document

/-- The names of the styles of a table. -/
structure TableStyle where
  header : String := "bold cyan"
  conda : String := "green"
  pypi : String := "blue"
  editable : String := "yellow"
deriving DecidableEq, Repr, Inhabited

namespace TableStyle

/-- Reads styles; those that are left out are the usual ones. -/
def check (v : Value) : Checked TableStyle :=
  let usual : TableStyle := {}
  match v.asRecord with
  | .ok f =>
    .apply (.apply (.apply (.apply (.ok TableStyle.mk)
      (f.optional "header" usual.header Value.asText))
      (f.optional "conda" usual.conda Value.asText))
      (f.optional "pypi" usual.pypi Value.asText))
      (f.optional "editable" usual.editable Value.asText)
  | .error faults => .error faults

/-- The style of a kind. -/
def kind (s : TableStyle) : Kind → String
  | .conda => s.conda
  | .pypi => s.pypi

end TableStyle

/-- A stretch of a text with a style. -/
structure Span where
  start : Nat
  stop : Nat
  style : String
deriving DecidableEq, Repr, Inhabited

/-- A text with a style for all of it and styles for stretches. -/
structure StyledText where
  text : String
  style : String
  spans : List Span
deriving DecidableEq, Repr, Inhabited

/-- Characters that would ring, or move the cursor, and are never shown. -/
def isControl (c : Char) : Bool :=
  c == '\x07' || c == '\x08' || c == '\x0b' || c == '\x0c' || c == '\r'

/-- A text without the characters that are never shown. -/
def dropControls (s : String) : String := String.ofList (s.toList.filter fun c => !isControl c)

namespace StyledText

/-- A text in one style. -/
def plain (s style : String) : StyledText := ⟨dropControls s, style, []⟩

/-- Adds a text in a style of its own, if that is one. -/
def append (t : StyledText) (s style : String) : StyledText :=
  let s := dropControls s
  let start := t.text.length
  { t with
    text := t.text ++ s
    spans := if style = "" then t.spans else t.spans ++ [⟨start, start + s.length, style⟩] }

end StyledText

/-- A row of the table. -/
structure TableRow where
  name : StyledText
  version : String
  build : String
  size : String
  kind : StyledText
  source : StyledText
deriving DecidableEq, Repr, Inhabited

/-- The table of some packages. -/
structure PackageTable where
  headerStyle : String
  rows : List TableRow
deriving DecidableEq, Repr, Inhabited

/-- What a source says of an editable package. -/
def editableMark : String := " (editable)"

namespace TableRow

/-- The style of a package's name. -/
def nameStyle (style : TableStyle) (p : Package) : String :=
  if p.isExplicit then "bold " ++ style.kind p.kind else ""

/-- The source of a package. -/
def sourceOf (style : TableStyle) (p : Package) : StyledText :=
  let source := StyledText.plain (p.source.getD "") ""
  if p.isEditable then source.append editableMark style.editable else source

/-- The size of a package, empty if it is unknown. A size that no unit brings into reach is too
large; below zero there are no units, and it is out of range. -/
def sizeOf (p : Package) : Except Failure String :=
  match p.size with
  | none => .ok ""
  | some n =>
    if n < 0 ∧ Number.isTooLong n then .error (.breakdown .outOfRange)
    else match sizeText n with
      | some text => .ok text
      | none => .error (.breakdown .tooLarge)

/-- The row of a package. -/
def ofPackage (style : TableStyle) (p : Package) : Except Failure TableRow := do
  let size ← sizeOf p
  return ⟨StyledText.plain p.name (nameStyle style p), p.version, p.build.getD "", size,
    StyledText.plain p.kind.word (style.kind p.kind), sourceOf style p⟩

end TableRow

/-- The table of some packages, in their order. -/
def PackageTable.ofPackages (style : TableStyle) (ps : List Package) :
    Except Failure PackageTable := do
  return ⟨style.header, ← ps.mapM (TableRow.ofPackage style)⟩

end PinLedger

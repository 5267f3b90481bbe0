/-
# Laying out the table of packages

The table is written at its natural width: every column is as wide as its widest cell, and a
console that is too narrow is widened. A cell with several lines makes its row higher.

Key definitions: `PackageTable.cells`, `columnWidths`, `tableLines`, `Printed`, `printTable`.
-/
import PinLedger.Table.Basic
import PinLedger.Table.Markup
import PinLedger.Text.Width

namespace PinLedger

/-- The headers of the columns. -/
def columnHeaders : List String := ["Package", "Version", "Build", "Size", "Kind", "Source"]

/-- What becomes of a table with a marked-up text that cannot be shown. -/
def Markup.Fault.breakdown : Markup.Fault → Breakdown
  | .broken => .markup
  | .number => .outOfRange

/-- The styles of a text and of its stretches. -/
def StyledText.styles (t : StyledText) : List String := t.style :: t.spans.map (·.style)

/-- The styles of the texts of a row that are not marked up. -/
def TableRow.styles (r : TableRow) : List String :=
  r.name.styles ++ r.kind.styles ++ r.source.styles

/-- What the cells of a row show, its version and build as marked-up texts. -/
def TableRow.cells (r : TableRow) (version build : Markup.Rendered) : List String :=
  [r.name.text, dropControls (String.ofList version.text), dropControls (String.ofList build.text),
    r.size, r.kind.text, r.source.text]

/-- What the cells of all rows show, the headers first. The columns are measured one after the
other, and styles are looked up when all have been. -/
def PackageTable.cells (t : PackageTable) : Except Failure (List (List String)) := do
  let shown (texts : List String) : Except Failure (List Markup.Rendered) :=
    (texts.mapM Markup.render).mapError fun f => .breakdown f.breakdown
  let versions ← shown (t.rows.map TableRow.version)
  let builds ← shown (t.rows.map TableRow.build)
  let styles := t.rows.flatMap TableRow.styles
    ++ (versions ++ builds).flatMap Markup.Rendered.styles
  if styles.any Style.breaks then .error (.breakdown .outOfRange)
  else .ok <| columnHeaders :: List.zipWith (fun r (shown : Markup.Rendered × Markup.Rendered) =>
    r.cells shown.1 shown.2) t.rows (versions.zip builds)

/-! ### Widths -/

/-- A character that ends a line when a cell is measured. -/
def endsCellLine (c : Char) : Bool :=
  c == '\n' || (0x1C ≤ c.toNat && c.toNat ≤ 0x1E) || c == '\u0085' || c == '\u2028' || c == '\u2029'

/-- The width of a cell: that of its widest line. -/
def cellWidth (s : String) : Nat :=
  ((s.toList.splitOnP endsCellLine).map Text.width).foldl max 0

/-- The width of each column. -/
def columnWidths (rows : List (List String)) : List Nat :=
  rows.foldl (fun widths row => List.zipWith (fun w s => max w (cellWidth s)) widths row)
    (columnHeaders.map fun _ => 0)

/-! ### Lines -/

/-- The distance of tab stops. -/
def tabSize : Nat := 8

/-- Puts blanks for tabs; `place` is the cell that the characters begin at. -/
def expandTabs (place : Nat) (parts : List (List Char)) : List Char :=
  match parts with
  | [] => []
  | [last] => last
  | part :: rest =>
    let reached := place + Text.width part
    let next := (reached / tabSize + 1) * tabSize
    part ++ List.replicate (next - reached) ' ' ++ expandTabs next rest

/-- Drops blanks at the end of a line that is wider than its column: one for each cell too many, if
there are so many of them. -/
def dropExcessBlanks (w : Nat) (cs : List Char) : List Char :=
  let blanks := (cs.reverse.takeWhile Text.isBlank).length
  cs.take (cs.length - min blanks (Text.width cs - w))

/-- Cuts a line to a width, or fills it up with blanks. -/
def fitLine (w : Nat) (cs : List Char) : List Char :=
  let cs := dropExcessBlanks w cs
  let size := Text.width cs
  if w < size then Text.cutToWidth (w - 1) cs ++ ['…']
  else cs ++ List.replicate (w - size) ' '

/-- The lines of a cell in a column. -/
def cellLines (w : Nat) (s : String) : List (List Char) :=
  (Text.splitAt '\n' s.toList).map fun line => fitLine w (expandTabs 0 (Text.splitAt '\t' line))

/-- A line of the table with its edges. -/
def edged (cs : List Char) : List Char := ' ' :: cs ++ [' ']

/-- A line of the table from its cells. -/
def joinCells (cells : List (List Char)) : List Char := edged ([' ', ' ', ' '].intercalate cells)

/-- The lines of a row: a cell that has fewer lines than others goes on with blank ones. -/
def rowLines (widths : List Nat) (row : List String) : List (List Char) :=
  let columns := List.zipWith (fun w s => (w, cellLines w s)) widths row
  let height := (columns.map fun c => c.2.length).foldl max 0
  (List.range height).map fun n =>
    joinCells (columns.map fun c => c.2.getD n (List.replicate c.1 ' '))

/-- The width of a table with some columns. -/
def tableWidth (widths : List Nat) : Nat :=
  widths.foldr (fun w total => w + total) 0 + 3 * (widths.length - 1) + 2

/-- The lines of the table. -/
def tableLines (rows : List (List String)) : List (List Char) :=
  let widths := columnWidths rows
  let blank := List.replicate (tableWidth widths) ' '
  let rule := edged (List.replicate (tableWidth widths - 2) '─')
  let body := match rows with
    | [] => []
    | header :: rows => rowLines widths header ++ [rule] ++ rows.flatMap (rowLines widths)
  [blank] ++ body ++ [blank]

/-! ### Printing -/

/-- What is printed on a console, and how wide the console is afterwards. -/
structure Printed where
  text : String
  width : Nat
deriving DecidableEq, Repr, Inhabited

/-- Prints a table on a console. -/
def PackageTable.print (t : PackageTable) (consoleWidth : Nat) : Except Failure Printed :=
  if Style.isStyle t.headerStyle then do
    let rows ← t.cells
    let text := String.ofList ((tableLines rows).flatMap fun line => line ++ ['\n'])
    return ⟨text, max consoleWidth (tableWidth (columnWidths rows))⟩
  else .error (.breakdown (if Style.breaks t.headerStyle then .outOfRange else .style))

/-- Prints packages as a table on a console. -/
def printTable (consoleWidth : Nat) (style : TableStyle) (ps : List Package) :
    Except Failure Printed := do
  (← PackageTable.ofPackages style ps).print consoleWidth

end PinLedger

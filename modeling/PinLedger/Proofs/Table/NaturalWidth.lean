/-
# The table at its natural width

Every column is as wide as its widest cell, so every cell fits, and no line depends on the console:
a console that is too narrow is widened. The cells of a package stand below the headers, in one
line.

Key definitions: `Natural`, `LaysOut`, `TableLayout`, `TableLayout.Shows`.
Key theorems: `spans_columnWidths`, `rowLines_eq`, `table_at_natural_width`.
-/
import PinLedger.Proofs.Table.Cells

namespace PinLedger

open Text

/-! ### The widths of the columns -/

section Columns

variable {widths : List Nat} {row : List String} {before rows : List (List String)}

/-- Makes columns as wide as the cells of a row. -/
def widen (widths : List Nat) (row : List String) : List Nat :=
  List.zipWith (fun w s => max w (cellWidth s)) widths row

/-- Every cell of a row fits into its column. -/
def FitsRow (widths : List Nat) (row : List String) : Prop :=
  List.Forall₂ (fun w s => cellWidth s ≤ w) widths row

theorem length_widen (h : row.length = widths.length) :
    (widen widths row).length = widths.length := by
  rw [widen, List.length_zipWith, h, Nat.min_self]

theorem fitsRow_widen (h : row.length = widths.length) : FitsRow (widen widths row) row := by
  induction widths generalizing row with
  | nil =>
    obtain rfl := List.eq_nil_of_length_eq_zero h
    exact .nil
  | cons w widths ih =>
    obtain ⟨s, row, rfl⟩ := List.exists_cons_of_length_eq_add_one h
    exact .cons (Nat.le_max_right ..) (ih (Nat.succ.inj h))

theorem FitsRow.widen {other : List String} (h : FitsRow widths row)
    (hother : other.length = widths.length) : FitsRow (widen widths other) row := by
  induction h generalizing other with
  | nil =>
    obtain rfl := List.eq_nil_of_length_eq_zero hother
    exact .nil
  | cons hle _ ih =>
    obtain ⟨s, other, rfl⟩ := List.exists_cons_of_length_eq_add_one hother
    exact .cons (hle.trans (Nat.le_max_left ..)) (ih (Nat.succ.inj hother))

/-- Columns are as wide as rows need: every cell fits, and some cell of a column takes all of it, if
it is not empty. -/
structure Spans (widths : List Nat) (rows : List (List String)) : Prop where
  fits : ∀ row ∈ rows, FitsRow widths row
  attained : ∀ k w : Nat, widths[k]? = some w →
    w = 0 ∨ ∃ row ∈ rows, ∃ s : String, row[k]? = some s ∧ cellWidth s = w

/-- One more row. -/
theorem Spans.widen (h : Spans widths before) (hrow : row.length = widths.length) :
    Spans (widen widths row) (before ++ [row]) := by
  constructor
  · intro other hother
    rcases List.mem_append.mp hother with hbefore | hlast
    · exact (h.fits other hbefore).widen hrow
    · obtain rfl := List.mem_singleton.mp hlast
      exact fitsRow_widen hrow
  · intro k w hw
    rw [PinLedger.widen, List.getElem?_zipWith_eq_some] at hw
    obtain ⟨w', s, hw', hs, rfl⟩ := hw
    -- The widest cell is either in this row or before it.
    rcases Nat.le_total (cellWidth s) w' with hle | hle
    · rw [Nat.max_eq_left hle]
      refine (h.attained k w' hw').imp_right ?_
      rintro ⟨other, hother, hattains⟩
      exact ⟨other, List.mem_append_left _ hother, hattains⟩
    · rw [Nat.max_eq_right hle]
      exact .inr ⟨row, List.mem_append_right _ (List.mem_singleton_self row), s, hs, rfl⟩

/-- All rows, one after the other. -/
theorem Spans.foldl_widen (h : Spans widths before)
    (hrows : ∀ row ∈ rows, row.length = widths.length) :
    Spans (rows.foldl PinLedger.widen widths) (before ++ rows) := by
  induction rows generalizing widths before with
  | nil => rwa [List.append_nil]
  | cons row rows ih =>
    obtain ⟨hrow, hrest⟩ := List.forall_mem_cons.mp hrows
    rw [List.foldl_cons, List.append_cons]
    refine ih (h.widen hrow) fun other hother => ?_
    rw [length_widen hrow, hrest other hother]

theorem spans_columnWidths (h : ∀ row ∈ rows, row.length = columnHeaders.length) :
    Spans (columnWidths rows) rows := by
  have hstart : Spans (columnHeaders.map fun _ => 0) [] := by
    refine ⟨fun row hrow => absurd hrow List.not_mem_nil, fun k w hw => .inl ?_⟩
    rw [List.getElem?_map, Option.map_eq_some_iff] at hw
    obtain ⟨_, _, hzero⟩ := hw
    exact hzero.symm
  refine hstart.foldl_widen fun row hrow => ?_
  rw [h row hrow, List.length_map]

/-- Every text of a row is at most as wide as its column. -/
def FitsColumns (widths : List Nat) (row : List String) : Prop :=
  List.Forall₂ (fun w s => width s.toList ≤ w) widths row

/-- Columns that are exactly as wide as their widest text. -/
structure Natural (widths : List Nat) (rows : List (List String)) : Prop where
  fits : ∀ row ∈ rows, FitsColumns widths row
  attained : ∀ k w : Nat, widths[k]? = some w →
    ∃ row ∈ rows, ∃ s : String, row[k]? = some s ∧ width s.toList = w

theorem FitsRow.fitsColumns (h : FitsRow widths row) (hshown : ∀ s ∈ row, Shown s.toList) :
    FitsColumns widths row := by
  induction h with
  | nil => exact .nil
  | cons hle _ ih =>
    obtain ⟨hs, hrest⟩ := List.forall_mem_cons.mp hshown
    rw [cellWidth_of_shown hs] at hle
    exact .cons hle (ih hrest)

theorem Spans.natural (h : Spans widths rows) (hne : rows ≠ [])
    (hshown : ∀ row ∈ rows, ∀ s ∈ row, Shown s.toList) : Natural widths rows := by
  have hfits := fun row hrow => (h.fits row hrow).fitsColumns (hshown row hrow)
  refine ⟨hfits, fun k w hw => ?_⟩
  rcases h.attained k w hw with rfl | ⟨row, hrow, s, hs, hattains⟩
  · -- In a column without width every cell is as wide as the column, that of the first row too.
    obtain ⟨first, rest, rfl⟩ := List.exists_cons_of_ne_nil hne
    obtain ⟨hlength, hget⟩ := List.forall₂_iff_get.mp (hfits first (List.mem_cons_self ..))
    obtain ⟨hk, hzero⟩ := List.getElem?_eq_some_iff.mp hw
    have hk' : k < first.length := hlength ▸ hk
    have hle : width first[k].toList ≤ 0 := (hget k hk hk').trans (Nat.le_of_eq hzero)
    exact ⟨first, List.mem_cons_self .., _, List.getElem?_eq_getElem hk', Nat.le_zero.mp hle⟩
  · rw [cellWidth_of_shown (hshown row hrow s (List.mem_of_getElem? hs))] at hattains
    exact ⟨row, hrow, s, hs, hattains⟩

end Columns

/-! ### The line of a row -/

section Rows

variable {widths : List Nat} {row : List String}

/-- The cells of a row in their columns. -/
def fitRow (widths : List Nat) (row : List String) : List ShownCell :=
  List.zipWith (fun w s => fit w s.toList) widths row

theorem foldl_max_ones {α : Type} {xs : List α} (h : xs ≠ []) :
    (xs.map fun _ => 1).foldl max 0 = 1 := by
  obtain ⟨x, xs, rfl⟩ := List.exists_cons_of_ne_nil h
  have hrest : (xs.map fun _ => 1).foldl max 1 = 1 := by
    induction xs with
    | nil => rfl
    | cons x xs ih => exact ih (List.cons_ne_nil _ _)
  exact hrest

/-- A line lays out the texts of a row: it shows every one of them, in order, each in its column
and from the column's first place on. -/
structure LaysOut (widths : List Nat) (texts : List String) (line : List ShownCell) : Prop where
  shows : line.map (·.shown) = texts.map String.toList
  columns : line.map (·.width) = widths
  /-- What stands in front of a cell takes as many places as the columns before it. -/
  starts : ∀ front c back, line = front ++ c :: back → ∃ left right,
    stretches line = left ++ c.shown :: List.replicate c.fill ' ' :: right ∧
      taken left = columnStart widths front.length
  /-- The cells and the blanks between them take as many places as every line of the table. -/
  total : taken (stretches line) = tableWidth widths

/-- In a line of shown texts every character is shown. -/
theorem LaysOut.shown {texts : List String} {line : List ShownCell}
    (h : LaysOut widths texts line) (htexts : ∀ s ∈ texts, Shown s.toList) :
    Shown (lineText line) := by
  intro c hc
  obtain ⟨part, hpart, hmem⟩ := List.mem_flatten.mp hc
  rcases mem_stretches hpart with hblank | ⟨cell, hcell, rfl⟩
  · rw [hblank c hmem]
    decide
  · have htext : cell.shown ∈ texts.map String.toList := h.shows ▸ List.mem_map_of_mem hcell
    obtain ⟨s, hs, heq⟩ := List.mem_map.mp htext
    exact htexts s hs c (heq ▸ hmem)

variable (hfits : FitsColumns widths row)

include hfits

theorem shown_fitRow : (fitRow widths row).map (·.shown) = row.map String.toList := by
  induction hfits with
  | nil => rfl
  | @cons _ s _ _ _ _ ih => exact congrArg (s.toList :: ·) ih

theorem widths_fitRow : (fitRow widths row).map (·.width) = widths := by
  induction hfits with
  | nil => rfl
  | cons hle _ ih => exact congrArg₂ List.cons (width_fit hle) ih

theorem zipWith_cellLines (hshown : ∀ s ∈ row, Shown s.toList) :
    List.zipWith (fun w s => (w, cellLines w s)) widths row =
      (fitRow widths row).map fun c => (c.width, [c.chars]) := by
  induction hfits with
  | nil => rfl
  | @cons w s widths row hle _ ih =>
    obtain ⟨hs, hrest⟩ := List.forall_mem_cons.mp hshown
    have hcell : (w, cellLines w s) = ((fit w s.toList).width, [(fit w s.toList).chars]) := by
      rw [cellLines_of_shown hs, fitLine_eq hle, width_fit hle]
    exact congrArg₂ List.cons hcell (ih hrest)

variable (hne : row ≠ [])

include hne

theorem fitRow_ne_nil : fitRow widths row ≠ [] := by
  obtain ⟨s, row, rfl⟩ := List.exists_cons_of_ne_nil hne
  cases hfits
  exact List.cons_ne_nil _ _

theorem laysOut_fitRow : LaysOut widths row (fitRow widths row) := by
  have hwidths := widths_fitRow hfits
  refine ⟨shown_fitRow hfits, hwidths, fun front c back heq => ?_, ?_⟩
  · have hstart := stretches_starts front c back
    rwa [← heq, hwidths] at hstart
  · rw [taken_stretches (fitRow_ne_nil hfits hne), hwidths]

/-- A row whose cells fit takes one line. -/
theorem rowLines_eq (hshown : ∀ s ∈ row, Shown s.toList) :
    rowLines widths row = [lineText (fitRow widths row)] := by
  have hheight := foldl_max_ones (fitRow_ne_nil hfits hne)
  unfold rowLines
  simp only [zipWith_cellLines hfits hshown, List.map_map, Function.comp_def, List.length_singleton, hheight]
  rw [List.range_one, List.map_singleton, lineText_eq]
  rfl

end Rows

/-! ### The table -/

/-- What is written of a table: the widths of the columns, the line of the headers, and a line for
each row. -/
structure TableLayout where
  widths : List Nat
  header : List ShownCell
  rows : List (List ShownCell)
deriving DecidableEq, Repr

namespace TableLayout

/-- A line of blanks. -/
def blank (t : TableLayout) : List Char := List.replicate (tableWidth t.widths) ' '

/-- The rule below the headers. -/
def rule (t : TableLayout) : List Char :=
  edged (List.replicate (tableWidth t.widths - 2) '─')

/-- The lines, from the first to the last. -/
def lines (t : TableLayout) : List (List Char) :=
  [t.blank, lineText t.header, t.rule] ++ t.rows.map lineText ++ [t.blank]

/-- The text, each line with its end. -/
def text (t : TableLayout) : String := String.ofList (t.lines.flatMap (· ++ ['\n']))

/-- What a table at its natural width shows of packages. -/
structure Shows (t : TableLayout) (ps : List Package) : Prop where
  natural : Natural t.widths (columnHeaders :: ps.map Package.cells)
  header : LaysOut t.widths columnHeaders t.header
  rows : List.Forall₂ (fun p line => LaysOut t.widths p.cells line) ps t.rows
  blank : width t.blank = tableWidth t.widths
  rule : width t.rule = tableWidth t.widths
  shown : ∀ line ∈ t.lines, Shown line

/-- The table of a row of headers and the rows below it. -/
def ofRows (header : List String) (rows : List (List String)) : TableLayout :=
  let widths := columnWidths (header :: rows)
  ⟨widths, fitRow widths header, rows.map (fitRow widths)⟩

section OfRows

variable {header : List String} {rows : List (List String)}

theorem widths_ofRows : (ofRows header rows).widths = columnWidths (header :: rows) := rfl

theorem rows_ofRows :
    (ofRows header rows).rows = rows.map (fitRow (columnWidths (header :: rows))) := rfl

variable (hnatural : Natural (columnWidths (header :: rows)) (header :: rows))
  (hne : ∀ row ∈ header :: rows, row ≠ [])

include hnatural hne

theorem laysOut_header :
    LaysOut (ofRows header rows).widths header (ofRows header rows).header :=
  laysOut_fitRow (hnatural.fits header (List.mem_cons_self ..)) (hne header (List.mem_cons_self ..))

theorem laysOut_rows :
    List.Forall₂ (LaysOut (ofRows header rows).widths) rows (ofRows header rows).rows := by
  rw [rows_ofRows, List.forall₂_map_right_iff, List.forall₂_same]
  exact fun row hrow => laysOut_fitRow (hnatural.fits row (List.mem_cons_of_mem _ hrow))
    (hne row (List.mem_cons_of_mem _ hrow))

/-- What is printed is one line for each row. -/
theorem tableLines_eq (hshown : ∀ row ∈ header :: rows, ∀ s ∈ row, Shown s.toList) :
    tableLines (header :: rows) = (ofRows header rows).lines := by
  have hline : ∀ row ∈ header :: rows, rowLines (columnWidths (header :: rows)) row =
      [lineText (fitRow (columnWidths (header :: rows)) row)] :=
    fun row hrow => rowLines_eq (hnatural.fits row hrow) (hne row hrow) (hshown row hrow)
  obtain ⟨hheader, hrest⟩ := List.forall_mem_cons.mp hline
  have hrows : rows.flatMap (rowLines (columnWidths (header :: rows))) =
      (ofRows header rows).rows.map lineText := by
    rw [List.flatMap_congr hrest, ← List.map_eq_flatMap, rows_ofRows, List.map_map]
    rfl
  simp only [tableLines, hheader, hrows]
  rfl

end OfRows

theorem two_le_tableWidth (widths : List Nat) : 2 ≤ tableWidth widths := Nat.le_add_left ..

theorem width_blank (t : TableLayout) : width t.blank = tableWidth t.widths := width_blanks _

theorem eq_of_mem_rule {t : TableLayout} {c : Char} (h : c ∈ t.rule) : c = ' ' ∨ c = '─' := by
  simp only [rule, edged, List.mem_append, List.mem_cons, List.mem_replicate, List.not_mem_nil,
    or_false] at h
  rcases h with (hfront | ⟨-, hdash⟩) | hend
  · exact .inl hfront
  · exact .inr hdash
  · exact .inl hend

theorem width_rule (t : TableLayout) : width t.rule = tableWidth t.widths := by
  have hdash : IsNarrow '─' := by decide +kernel
  have hnarrow : ∀ c ∈ t.rule, IsNarrow c := by
    intro c hc
    rcases eq_of_mem_rule hc with rfl | rfl
    · exact isNarrow_blank
    · exact hdash
  rw [width, widthAfter_of_narrow hnarrow, rule, edged]
  have hle := two_le_tableWidth t.widths
  simp only [List.length_append, List.length_cons, List.length_replicate, List.length_nil]
  omega

theorem shown_blank (t : TableLayout) : Shown t.blank := forall_mem_blanks (by decide) _

theorem shown_rule (t : TableLayout) : Shown t.rule := by
  intro c hc
  rcases eq_of_mem_rule hc with rfl | rfl <;> decide

/-! ### Packages -/

theorem length_cells (ps : List Package) :
    ∀ row ∈ columnHeaders :: ps.map Package.cells, row.length = columnHeaders.length := by
  rw [List.forall_mem_cons, List.forall_mem_map]
  exact ⟨rfl, fun _ _ => rfl⟩

theorem cells_ne_nil (ps : List Package) :
    ∀ row ∈ columnHeaders :: ps.map Package.cells, row ≠ [] := by
  rw [List.forall_mem_cons, List.forall_mem_map]
  exact ⟨List.cons_ne_nil _ _, fun _ _ => List.cons_ne_nil _ _⟩

section Packages

variable {ps : List Package} (h : ∀ p ∈ ps, p.IsShown)

include h

theorem shown_cells :
    ∀ row ∈ columnHeaders :: ps.map Package.cells, ∀ s ∈ row, Shown s.toList := by
  have hheaders : ∀ s ∈ columnHeaders, Shown s.toList := by decide
  rw [List.forall_mem_cons, List.forall_mem_map]
  exact ⟨hheaders, fun p hp => (h p hp).shown_cells⟩

theorem natural_cells :
    Natural (columnWidths (columnHeaders :: ps.map Package.cells))
      (columnHeaders :: ps.map Package.cells) :=
  (spans_columnWidths (length_cells ps)).natural (List.cons_ne_nil _ _) (shown_cells h)

theorem shown_lines :
    ∀ line ∈ (ofRows columnHeaders (ps.map Package.cells)).lines, Shown line := by
  have hheader := laysOut_header (natural_cells h) (cells_ne_nil ps)
  have hrows := laysOut_rows (natural_cells h) (cells_ne_nil ps)
  obtain ⟨htexts, hcells⟩ := List.forall_mem_cons.mp (shown_cells h)
  intro line hline
  simp only [lines, List.mem_append, List.mem_cons, List.mem_map, List.not_mem_nil, or_false]
    at hline
  rcases hline with ((rfl | rfl | rfl) | ⟨cells, hmem, rfl⟩) | rfl
  · exact shown_blank _
  · exact hheader.shown htexts
  · exact shown_rule _
  · obtain ⟨row, hrow, hlays⟩ := Outcome.exists_of_mem_right hrows hmem
    exact hlays.shown (hcells row hrow)
  · exact shown_blank _

theorem tableLines_cells : tableLines (columnHeaders :: ps.map Package.cells) =
    (ofRows columnHeaders (ps.map Package.cells)).lines :=
  tableLines_eq (natural_cells h) (cells_ne_nil ps) (shown_cells h)

theorem shows_ofRows : (ofRows columnHeaders (ps.map Package.cells)).Shows ps where
  natural := by
    rw [widths_ofRows]
    exact natural_cells h
  header := laysOut_header (natural_cells h) (cells_ne_nil ps)
  rows := List.forall₂_map_left_iff.mp (laysOut_rows (natural_cells h) (cells_ne_nil ps))
  blank := width_blank _
  rule := width_rule _
  shown := shown_lines h

end Packages

end TableLayout

section Print

variable {style : TableStyle} (hstyle : style.IsUsable) {ps : List Package}

include hstyle

/-- Printing packages comes down to their cells. -/
theorem printTable_eq_map (h : ∀ p ∈ ps, p.IsShown) (consoleWidth : Nat) :
    printTable consoleWidth style ps =
      (⟨style.header, ps.map (Package.row style)⟩ : PackageTable).cells.map fun rows =>
        ⟨String.ofList ((tableLines rows).flatMap (· ++ ['\n'])),
          max consoleWidth (tableWidth (columnWidths rows))⟩ := by
  rw [printTable, ofPackages_of_shown h style, Outcome.ok_bind, PackageTable.print,
    if_pos hstyle.header]
  cases (⟨style.header, ps.map (Package.row style)⟩ : PackageTable).cells <;> rfl

/-- What is printed of packages with these cells. -/
theorem printTable_of_shownAs (h : ∀ p ∈ ps, p.IsShown) {rows : List (List String)}
    (hrows : List.Forall₂ Package.ShownAs ps rows) (consoleWidth : Nat) :
    printTable consoleWidth style ps =
      .ok ⟨String.ofList ((tableLines (columnHeaders :: rows)).flatMap (· ++ ['\n'])),
        max consoleWidth (tableWidth (columnWidths (columnHeaders :: rows)))⟩ := by
  rw [printTable_eq_map hstyle h,
    (cells_rows_eq_ok_iff hstyle h style.header).mpr ⟨rows, hrows, rfl⟩]
  rfl

/-- What is printed of plain packages. -/
theorem printTable_eq (h : ∀ p ∈ ps, p.IsPlain) (consoleWidth : Nat) :
    printTable consoleWidth style ps =
      .ok ⟨String.ofList
          ((tableLines (columnHeaders :: ps.map Package.cells)).flatMap (· ++ ['\n'])),
        max consoleWidth (tableWidth (columnWidths (columnHeaders :: ps.map Package.cells)))⟩ := by
  refine printTable_of_shownAs hstyle (fun p hp => (h p hp).isShown) ?_ consoleWidth
  rw [List.forall₂_map_right_iff, List.forall₂_same]
  exact fun p hp => (h p hp).shownAs_cells

/-- A table of plain packages is printed at its natural width: on every console it has the same
text, with the cells of each package in one line below the headers, and a console that is too narrow
for it is widened. -/
theorem table_at_natural_width (h : ∀ p ∈ ps, p.IsPlain) :
    ∃ t : TableLayout, t.Shows ps ∧ ∀ consoleWidth,
      printTable consoleWidth style ps = .ok ⟨t.text, max consoleWidth (tableWidth t.widths)⟩ := by
  have hshown : ∀ p ∈ ps, p.IsShown := fun p hp => (h p hp).isShown
  refine ⟨.ofRows columnHeaders (ps.map Package.cells), TableLayout.shows_ofRows hshown,
    fun consoleWidth => ?_⟩
  rw [printTable_eq hstyle h, TableLayout.tableLines_cells hshown, TableLayout.text,
    TableLayout.widths_ofRows]

end Print

/-! ### The usual styles -/

namespace Style

theorem isStyle_of_read {s : String} {d : Definition} (h : read s = .ok d) : isStyle s = true := by
  simp [isStyle, h, Except.toOption]

theorem breaks_of_read {s : String} {d : Definition} (h : read s = .ok d) : breaks s = false := by
  simp [breaks, h]

/-- A colour by a name in small letters that is no attribute. -/
structure IsPlainColour (word : String) : Prop where
  known : colours.contains word = true
  lower_eq : lower word = word
  attribute?_eq : attribute? word = none

theorem isPlainColour_usual :
    ∀ word ∈ ["cyan", "green", "blue", "yellow"], IsPlainColour word := by
  have hknown : ∀ word ∈ ["cyan", "green", "blue", "yellow"], colours.contains word = true := by
    unfold colours namesOf
    rw [String.toList_ofList]
    decide +kernel
  have hlower : ∀ word ∈ ["cyan", "green", "blue", "yellow"], lower word = word := by
    decide +kernel
  have hattribute : ∀ word ∈ ["cyan", "green", "blue", "yellow"], attribute? word = none := by
    decide +kernel
  exact fun word hword => ⟨hknown word hword, hlower word hword, hattribute word hword⟩

namespace IsPlainColour

variable {word : String} (h : IsPlainColour word)

include h

theorem readWord_eq (d : Definition) : readWord d word = .ok { d with colour := some word } := by
  have hcolour : readColour word = .ok word := by
    unfold readColour
    rw [h.lower_eq]
    exact if_pos h.known
  rw [readWord, h.attribute?_eq, hcolour]
  rfl

/-- A colour is a style. -/
theorem exists_read (hwords : words word = [word]) : ∃ d, read word = .ok d := by
  unfold read
  split
  · exact ⟨_, rfl⟩
  · rw [hwords, readWords, h.lower_eq, h.readWord_eq]
    exact ⟨_, rfl⟩

/-- So is one in bold. -/
theorem exists_read_bold (hwords : words ("bold " ++ word) = ["bold", word]) :
    ∃ d, read ("bold " ++ word) = .ok d := by
  have hlower : lower "bold" = "bold" := by decide +kernel
  have hbold : ∀ d, readWord d "bold" = .ok (d.set "bold" true) := fun d => by
    have hattribute : attribute? "bold" = some "bold" := by decide +kernel
    rw [readWord, hattribute]
  unfold read
  split
  · exact ⟨_, rfl⟩
  · rw [hwords, readWords, hlower, if_neg (by decide), if_neg (by decide), if_neg (by decide), hbold,
      Outcome.ok_bind, readWords, h.lower_eq, h.readWord_eq]
    exact ⟨_, rfl⟩

end IsPlainColour

end Style

/-- The usual styles are usable. -/
theorem isUsable_usual : ({} : TableStyle).IsUsable := by
  have hwords : ∀ word ∈ ["cyan", "green", "blue", "yellow"], Style.words word = [word] ∧
      Style.words ("bold " ++ word) = ["bold", word] := by decide +kernel
  have hread : ∀ word ∈ ["cyan", "green", "blue", "yellow"],
      (∃ d, Style.read word = .ok d) ∧ ∃ d, Style.read ("bold " ++ word) = .ok d :=
    fun word hword => ⟨(Style.isPlainColour_usual word hword).exists_read (hwords word hword).1,
      (Style.isPlainColour_usual word hword).exists_read_bold (hwords word hword).2⟩
  have hplain : ∀ word ∈ ["cyan", "green", "blue", "yellow"], Style.breaks word = false :=
    fun word hword => (hread word hword).1.elim fun _ => Style.breaks_of_read
  have hbold : ∀ word ∈ ["cyan", "green", "blue", "yellow"],
      Style.breaks ("bold " ++ word) = false :=
    fun word hword => (hread word hword).2.elim fun _ => Style.breaks_of_read
  refine ⟨(hread "cyan" (by decide)).2.elim fun _ => Style.isStyle_of_read, ?_, ?_,
    hplain "yellow" (by decide)⟩
  · rintro (_ | _)
    · exact hplain "green" (by decide)
    · exact hplain "blue" (by decide)
  · rintro (_ | _)
    · exact hbold "green" (by decide)
    · exact hbold "blue" (by decide)

/-- A package, and an editable one with wide letters and a letter of two characters. -/
def widePackages : List Package := [
  ⟨"naïve", "1.0", some "py_0", some 2500, .conda, some "conda-forge", true, false⟩,
  ⟨"日本e\u0301", "2", none, none, .pypi, some "./本", false, true⟩]

theorem isPlain_widePackages : ∀ p ∈ widePackages, p.IsPlain := by
  rw [widePackages, List.forall_mem_cons, List.forall_mem_singleton]
  constructor
  · exact ⟨by decide, by decide, by decide, by decide, by decide, by decide, "2.5 kB",
      by decide +kernel⟩
  · exact ⟨by decide, by decide, by decide, by decide, by decide, by decide, "", rfl⟩

theorem natural_width_of_widePackages :
    ({} : TableStyle).IsUsable ∧ (∀ p ∈ widePackages, p.IsPlain) ∧
    ∃ t : TableLayout, t.Shows widePackages ∧ ∀ consoleWidth,
      printTable consoleWidth {} widePackages =
        .ok ⟨t.text, max consoleWidth (tableWidth t.widths)⟩ :=
  ⟨isUsable_usual, isPlain_widePackages,
    table_at_natural_width isUsable_usual isPlain_widePackages⟩

end PinLedger

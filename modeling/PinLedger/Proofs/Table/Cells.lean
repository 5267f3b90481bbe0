/-
# Cells and the lines they make up

A text that is no wider than its column is written from the column's first place on, all of it, and
blanks fill the column behind it. Its characters may outnumber the places of the column even so, if
some of them take none.

A line is a row of cells side by side. Where a cell begins depends on the widths of the columns
before it only, so what stands below each other begins at the same place.

Key definitions: `ShownCell`, `fit`, `stretches`, `columnStart`.
Key theorems: `fitLine_eq`, `width_fit`, `taken_stretches`, `stretches_starts`.
-/
import PinLedger.Proofs.Table.Plain

namespace PinLedger

/-! ### Widths of texts -/

namespace Text

theorem widthAfter_cons {c : Char} (hjoiner : c ≠ joiner) (last : Option Char)
    (rest : List Char) :
    widthAfter last (c :: rest) =
      if c = emojiSelector then
        (if (last.map widenedSet.has).getD false then 1 else 0) + widthAfter none rest
      else charWidth c + widthAfter (if charWidth c = 0 then last else some c) rest := by
  rw [widthAfter.eq_def]
  exact if_neg hjoiner

/-- A character that takes one place, whatever stands around it. -/
def IsNarrow (c : Char) : Prop := c ≠ joiner ∧ c ≠ emojiSelector ∧ charWidth c = 1

instance (c : Char) : Decidable (IsNarrow c) :=
  inferInstanceAs (Decidable (c ≠ joiner ∧ c ≠ emojiSelector ∧ charWidth c = 1))

theorem widthAfter_of_narrow {cs : List Char} (h : ∀ c ∈ cs, IsNarrow c) (last : Option Char) :
    widthAfter last cs = cs.length := by
  induction cs generalizing last with
  | nil => rfl
  | cons c cs ih =>
    obtain ⟨⟨hjoiner, hselector, hwidth⟩, hrest⟩ := List.forall_mem_cons.mp h
    rw [widthAfter_cons hjoiner, if_neg hselector, ih hrest, hwidth, List.length_cons]
    omega

theorem isNarrow_blank : IsNarrow ' ' := by decide

theorem forall_mem_blanks {P : Char → Prop} (h : P ' ') (n : Nat) :
    ∀ c ∈ List.replicate n ' ', P c := by
  intro c hc
  rwa [List.eq_of_mem_replicate hc]

theorem width_blanks (n : Nat) : width (List.replicate n ' ') = n := by
  rw [width, widthAfter_of_narrow (forall_mem_blanks isNarrow_blank n), List.length_replicate]

end Text

open Text

/-! ### Fitting a text into a column -/

/-- A cell in a line: the characters that are shown, and how many blanks fill the column up. -/
structure ShownCell where
  shown : List Char
  fill : Nat
deriving DecidableEq, Repr

namespace ShownCell

/-- The characters of a cell. -/
def chars (c : ShownCell) : List Char := c.shown ++ List.replicate c.fill ' '

/-- The stretches of a cell: what is shown, and the blanks behind it. -/
def parts (c : ShownCell) : List (List Char) := [c.shown, List.replicate c.fill ' ']

/-- The places that a cell takes. -/
def width (c : ShownCell) : Nat := Text.width c.shown + Text.width (List.replicate c.fill ' ')

end ShownCell

/-- A text in a column. -/
def fit (w : Nat) (cs : List Char) : ShownCell := ⟨cs, w - width cs⟩

section Fit

variable {w : Nat} {cs : List Char} (h : width cs ≤ w)

include h

theorem width_fit : (fit w cs).width = w := by
  simp only [ShownCell.width, width_blanks, fit]
  omega

/-- No blank is too much. -/
theorem dropExcessBlanks_eq : dropExcessBlanks w cs = cs := by
  simp [dropExcessBlanks, Nat.sub_eq_zero_of_le h]

/-- A text that is no wider than its column is not cut. -/
theorem fitLine_eq : fitLine w cs = (fit w cs).chars := by
  unfold fitLine
  rw [dropExcessBlanks_eq h]
  exact if_neg (Nat.not_lt.mpr h)

end Fit

/-! ### Texts of one line -/

section OneLine

variable {s : String} (h : Shown s.toList)

include h

theorem cellWidth_of_shown : cellWidth s = width s.toList := by
  rw [cellWidth, List.splitOnP_eq_singleton fun c hc => endsCellLine_of_isShown (h c hc)]
  exact Nat.zero_max ..

theorem cellLines_of_shown (w : Nat) : cellLines w s = [fitLine w s.toList] := by
  rw [cellLines, splitAt_of_not_mem (h.not_mem (by decide)), List.map_singleton,
    splitAt_of_not_mem (h.not_mem (by decide)), expandTabs]

end OneLine

/-! ### Lines -/

/-- The stretches of a line: its cells, each with the blanks behind it, three blanks between two
cells, and a blank at both ends. -/
def stretches (line : List ShownCell) : List (List Char) :=
  [' '] :: [[' ', ' ', ' ']].intercalate (line.map (·.parts)) ++ [[' ']]

/-- The characters of a line. -/
def lineText (line : List ShownCell) : List Char := (stretches line).flatten

/-- The places that stretches take. -/
def taken (parts : List (List Char)) : Nat := (parts.map width).sum

/-- Where a column begins: behind the blank at the front, the columns before it, and the three
blanks behind each of them. -/
def columnStart (widths : List Nat) (k : Nat) : Nat := 1 + ((widths.take k).map (· + 3)).sum

theorem intercalate_cons {α : Type} (between first : List α) (rest : List (List α)) :
    between.intercalate (first :: rest) = first ++ rest.flatMap (between ++ ·) := by
  induction rest generalizing first with
  | nil => simp
  | cons next rest ih =>
    rw [List.intercalate_cons_cons, ih, List.flatMap_cons]
    simp only [List.append_assoc]

theorem intercalate_append {α : Type} (between next : List α) (front back : List (List α)) :
    between.intercalate (front ++ next :: back) =
      front.flatMap (· ++ between) ++ between.intercalate (next :: back) := by
  induction front with
  | nil => rfl
  | cons first front ih =>
    rw [List.flatMap_cons, List.append_assoc, ← ih]
    cases front <;> simp [List.intercalate_cons_cons]

theorem taken_append (parts more : List (List Char)) :
    taken (parts ++ more) = taken parts + taken more := by
  simp [taken]

theorem taken_parts (c : ShownCell) : taken c.parts = c.width := by
  simp [taken, ShownCell.parts, ShownCell.width]

theorem lineText_eq (line : List ShownCell) : lineText line = joinCells (line.map (·.chars)) := by
  cases line with
  | nil => rfl
  | cons first rest =>
    simp only [lineText, stretches, joinCells, edged, List.map_cons, intercalate_cons,
      ShownCell.chars, ShownCell.parts]
    simp [List.flatMap_def, Function.comp_def, List.flatten_flatten]

/-- A stretch is that of a cell, or blank. -/
theorem mem_stretches {line : List ShownCell} {part : List Char} (h : part ∈ stretches line) :
    (∀ c ∈ part, c = ' ') ∨ ∃ cell ∈ line, part = cell.shown := by
  have hblanks : ∀ n, ∀ c ∈ List.replicate n ' ', c = ' ' := forall_mem_blanks rfl
  have hedge : part = [' '] → ∀ c ∈ part, c = ' ' := fun heq => heq ▸ hblanks 1
  have hgap : part = [' ', ' ', ' '] → ∀ c ∈ part, c = ' ' := fun heq => heq ▸ hblanks 3
  have hcell : ∀ cell ∈ line, part ∈ cell.parts →
      (∀ c ∈ part, c = ' ') ∨ ∃ cell ∈ line, part = cell.shown := by
    intro cell hmem hpart
    rcases List.mem_cons.mp hpart with heq | hfill
    · exact .inr ⟨cell, hmem, heq⟩
    · exact .inl (List.mem_singleton.mp hfill ▸ hblanks cell.fill)
  cases line with
  | nil =>
    refine .inl (hedge ?_)
    simpa [stretches] using h
  | cons first rest =>
    rw [stretches, List.map_cons, intercalate_cons, List.mem_append, List.mem_cons,
      List.mem_append, List.mem_flatMap] at h
    rcases h with (hfront | hfirst | ⟨parts, hparts, hpart⟩) | hend
    · exact .inl (hedge hfront)
    · exact hcell first (List.mem_cons_self ..) hfirst
    · obtain ⟨cell, hmem, rfl⟩ := List.mem_map.mp hparts
      rcases List.mem_append.mp hpart with hbetween | hpart
      · exact .inl (hgap (List.mem_singleton.mp hbetween))
      · exact hcell cell (List.mem_cons_of_mem _ hmem) hpart
    · exact .inl (hedge (List.mem_singleton.mp hend))

theorem taken_gap : taken [[' ', ' ', ' ']] = 3 := by decide

/-- Cells with the blanks in front of them. -/
theorem taken_back (cells : List ShownCell) :
    taken ((cells.map (·.parts)).flatMap ([[' ', ' ', ' ']] ++ ·)) =
      (cells.map (·.width)).sum + 3 * cells.length := by
  induction cells with
  | nil => rfl
  | cons c cells ih =>
    rw [List.map_cons, List.flatMap_cons, taken_append, ih, taken_append, taken_parts, taken_gap,
      List.map_cons, List.sum_cons, List.length_cons]
    omega

/-- Cells with the blanks behind them. -/
theorem taken_front (cells : List ShownCell) :
    taken ((cells.map (·.parts)).flatMap (· ++ [[' ', ' ', ' ']])) =
      ((cells.map (·.width)).map (· + 3)).sum := by
  induction cells with
  | nil => rfl
  | cons c cells ih =>
    rw [List.map_cons, List.flatMap_cons, taken_append, ih, taken_append, taken_parts, taken_gap,
      List.map_cons, List.map_cons, List.sum_cons]

/-- The places of a line are those of its columns, three between two of them, and two at the
ends. -/
theorem taken_stretches {line : List ShownCell} (h : line ≠ []) :
    taken (stretches line) = tableWidth (line.map (·.width)) := by
  obtain ⟨first, rest, rfl⟩ := List.exists_cons_of_ne_nil h
  have hedge : taken [[' ']] = 1 := by decide
  rw [stretches, List.map_cons, intercalate_cons, ← List.singleton_append, taken_append,
    taken_append, taken_append, taken_back, hedge, taken_parts, tableWidth, ← List.sum_eq_foldr]
  simp only [List.map_cons, List.sum_cons, List.length_cons, List.length_map]
  omega

/-- A cell begins where its column does. -/
theorem stretches_starts (front : List ShownCell) (c : ShownCell) (back : List ShownCell) :
    ∃ before after, stretches (front ++ c :: back) =
        before ++ c.shown :: List.replicate c.fill ' ' :: after ∧
      taken before = columnStart ((front ++ c :: back).map (·.width)) front.length := by
  refine ⟨[' '] :: (front.map (·.parts)).flatMap (· ++ [[' ', ' ', ' ']]),
    (back.map (·.parts)).flatMap ([[' ', ' ', ' ']] ++ ·) ++ [[' ']], ?_, ?_⟩
  · rw [stretches, List.map_append, List.map_cons, intercalate_append, intercalate_cons,
      ShownCell.parts]
    simp only [List.cons_append, List.append_assoc, List.nil_append]
  · have hedge : taken [[' ']] = 1 := by decide
    rw [← List.singleton_append, taken_append, taken_front, hedge, columnStart, List.map_append,
      List.take_append_of_le_length (List.length_map ..).ge,
      List.take_of_length_le (List.length_map ..).le]

end PinLedger

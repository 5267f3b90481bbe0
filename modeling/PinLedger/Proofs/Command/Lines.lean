/-
# How lines of the error output begin

A text is broken into lines that have room on the console. What stands in front of the first blank
stays together, so a text with a label in front has this label in front of its first line, wherever
the label has room: `Error:` in front of every diagnosis, `Environment:` in front of the name of the
environment. No line of a note can be taken for either. A text of characters that are shown, which
has room in one line, is one line as it is (`shownLines_of_takesOneLine`).

Key definitions: `IsLabelChar`, `TakesOneLine`.
Key theorems: `prefix_fitted`, `breakLine_label`, `shownLines_of_takesOneLine`,
`errorLines_diagnosis`, `environmentLines_label`, `not_prefix_of_mem_trailLines`.
-/
import PinLedger.Command.Run
import PinLedger.Proofs.Table.Cells

namespace PinLedger.Command

open Text (splitAt isBlank IsNarrow joiner emojiSelector)

/-! ### Widths -/

/-- A text of characters that stand alone takes the cells of its characters. -/
theorem widthAfter_of_lone {cs : List Char} (h : ∀ c ∈ cs, c ≠ joiner ∧ c ≠ emojiSelector)
    (last : Option Char) : Text.widthAfter last cs = (cs.map Text.charWidth).sum := by
  induction cs generalizing last with
  | nil => rfl
  | cons c cs ih =>
    obtain ⟨⟨hjoiner, hselector⟩, hrest⟩ := List.forall_mem_cons.mp h
    rw [Text.widthAfter_cons hjoiner, if_neg hselector, ih hrest, List.map_cons, List.sum_cons]

theorem width_append {as bs : List Char} (h : ∀ c ∈ as ++ bs, c ≠ joiner ∧ c ≠ emojiSelector) :
    Text.width (as ++ bs) = Text.width as + Text.width bs := by
  obtain ⟨has, hbs⟩ := List.forall_mem_append.mp h
  simp only [Text.width, widthAfter_of_lone h, widthAfter_of_lone has, widthAfter_of_lone hbs,
    List.map_append, List.sum_append]

theorem bareWord_prefix (word : List Char) : bareWord word <+: word := by
  rw [bareWord, ← List.reverse_suffix, List.reverse_reverse]
  exact List.dropWhile_suffix isBlank

theorem width_bareWord_le {word : List Char} (h : ∀ c ∈ word, c ≠ joiner ∧ c ≠ emojiSelector) :
    Text.width (bareWord word) ≤ Text.width word := by
  obtain ⟨blanks, hword⟩ := bareWord_prefix word
  rw [← hword] at h
  rw [← congrArg Text.width hword, width_append h]
  exact Nat.le_add_right ..

/-! ### Cutting a line behind a label -/

/-- A character of a label: it takes one cell, and no sign behind it makes it wider. -/
def IsLabelChar (c : Char) : Prop := IsNarrow c ∧ Text.widenedSet.has c = false

instance (c : Char) : Decidable (IsLabelChar c) :=
  inferInstanceAs (Decidable (IsNarrow c ∧ Text.widenedSet.has c = false))

/-- Characters that join a cluster make it longer, and no wider. -/
theorem clustersFrom_some {last : Char} (hlast : Text.widenedSet.has last = false)
    (k : Text.Cluster) (rest : List Char) :
    ∃ more ks, Text.clustersFrom (some k) (some last) rest = ⟨k.chars ++ more, k.width⟩ :: ks := by
  induction hn : rest.length using Nat.strong_induction_on generalizing k rest with
  | _ n ih =>
    cases rest with
    | nil => exact ⟨[], [], by simp [Text.clustersFrom]⟩
    | cons c rest =>
      subst hn
      have hextend : ∀ (cs : List Char) (rest' : List Char), rest'.length < (c :: rest).length →
          ∃ more ks, Text.clustersFrom (some (k.extend cs 0)) (some last) rest' =
            ⟨k.chars ++ more, k.width⟩ :: ks := by
        intro cs rest' hlt
        obtain ⟨more, ks, heq⟩ := ih _ hlt (k.extend cs 0) rest' rfl
        exact ⟨cs ++ more, ks, by simpa [Text.Cluster.extend] using heq⟩
      rw [Text.clustersFrom.eq_def]
      dsimp only
      split
      · cases rest with
        | nil => exact hextend [c] [] (by simp)
        | cons d more => exact hextend [c, d] more (by simp)
      · split
        · simp only [Option.map_some, Option.getD_some, hlast, Bool.false_eq_true, if_false]
          exact hextend [c] rest (by simp)
        · split
          · exact hextend [c] rest (by simp)
          · refine ⟨[], Text.clustersFrom (some ⟨[c], Text.charWidth c⟩) (some c) rest, ?_⟩
            simp

theorem prefix_fitting {front : List Char} (h : ∀ c ∈ front, IsLabelChar c) {last : Char}
    (hlast : Text.widenedSet.has last = false) (k : Text.Cluster) (hk : 0 < k.width)
    (rest : List Char) {n : Nat} (hn : k.width + front.length ≤ n) :
    k.chars ++ front <+:
      Text.fitting n (Text.clustersFrom (some k) (some last) (front ++ rest)) := by
  induction front generalizing last k n with
  | nil =>
    obtain ⟨more, ks, heq⟩ := clustersFrom_some hlast k rest
    obtain ⟨n, rfl⟩ := Nat.exists_eq_succ_of_ne_zero (by simp at hn; omega : n ≠ 0)
    rw [List.nil_append, heq, Text.fitting, if_pos (by simpa using hn), List.append_nil,
      List.append_assoc]
    exact List.prefix_append ..
  | cons c front ih =>
    obtain ⟨⟨⟨hjoiner, hselector, hwidth⟩, hwidened⟩, hfront⟩ := List.forall_mem_cons.mp h
    obtain ⟨n, rfl⟩ := Nat.exists_eq_succ_of_ne_zero (by simp at hn; omega : n ≠ 0)
    rw [List.length_cons] at hn
    rw [List.cons_append, Text.clustersFrom.eq_def]
    dsimp only
    rw [if_neg hjoiner, if_neg hselector, if_neg (by omega), Option.toList_some,
      List.singleton_append, Text.fitting, if_pos (by omega), List.prefix_append_right_inj]
    exact ih hfront hwidened ⟨[c], Text.charWidth c⟩ (by simp [hwidth]) (by simp [hwidth]; omega)

/-- A label that has room stays in front of a line that is cut. -/
theorem prefix_cutToWidth {front : List Char} (h : ∀ c ∈ front, IsLabelChar c) {columns : Nat}
    (hroom : front.length ≤ columns) (rest : List Char) :
    front <+: Text.cutToWidth columns (front ++ rest) := by
  cases front with
  | nil => exact List.nil_prefix
  | cons c front =>
    obtain ⟨⟨⟨hjoiner, hselector, hwidth⟩, hwidened⟩, hfront⟩ := List.forall_mem_cons.mp h
    rw [Text.cutToWidth, Text.clusters, List.cons_append, Text.clustersFrom.eq_def]
    dsimp only
    rw [if_neg hjoiner, if_neg hselector, if_neg (by omega), Option.toList_none, List.nil_append]
    exact prefix_fitting hfront hwidened ⟨[c], Text.charWidth c⟩ (by simp [hwidth]) rest
      (by simp only [hwidth, List.length_cons] at hroom ⊢; omega)

/-- Only blanks behind a label are dropped, if it does not end in one. -/
theorem dropExcessBlanks_append {front : List Char} (hlast : ∀ c ∈ front.getLast?, isBlank c = false)
    (columns : Nat) (rest : List Char) :
    ∃ kept, dropExcessBlanks columns (front ++ rest) = front ++ kept := by
  have hblanks : ((front ++ rest).reverse.takeWhile isBlank).length ≤ rest.length := by
    rw [List.reverse_append, List.takeWhile_append]
    split
    · have hfront : front.reverse.takeWhile isBlank = [] := by
        cases hr : front.reverse with
        | nil => rfl
        | cons c cs =>
          have hc : front.getLast? = some c := by
            rw [List.getLast?_eq_head?_reverse, hr]
            rfl
          exact List.takeWhile_cons_of_neg (by simp [hlast c hc])
      simp [hfront]
    · exact (List.takeWhile_prefix isBlank).length_le.trans (by simp)
  unfold dropExcessBlanks
  dsimp only
  rw [List.take_append, List.take_of_length_le]
  · exact ⟨_, rfl⟩
  · rw [List.length_append]
    omega

/-- A label that has room stays in front of a line that is fitted into the console. -/
theorem prefix_fitted {front : List Char} (h : ∀ c ∈ front, IsLabelChar c)
    (hlast : ∀ c ∈ front.getLast?, isBlank c = false) {columns : Nat}
    (hroom : front.length ≤ columns) (rest : List Char) :
    front <+: fitted columns (front ++ rest) := by
  obtain ⟨kept, hkept⟩ := dropExcessBlanks_append hlast columns rest
  unfold fitted
  rw [hkept]
  dsimp only
  split
  · exact prefix_cutToWidth h hroom kept
  · exact List.prefix_append ..

theorem fitted_of_width_le {columns : Nat} {cs : List Char} (h : Text.width cs ≤ columns) :
    fitted columns cs = cs := by
  unfold fitted
  rw [dropExcessBlanks_eq h]
  exact if_neg (Nat.not_lt.mpr h)

/-! ### Words -/

theorem wordsFrom_solid {front : List Char} (h : ∀ c ∈ front, isBlank c = false)
    (word cs : List Char) :
    wordsFrom word true false (front ++ cs) = wordsFrom (word ++ front) true false cs := by
  induction front generalizing word with
  | nil => rw [List.nil_append, List.append_nil]
  | cons c front ih =>
    obtain ⟨hc, hfront⟩ := List.forall_mem_cons.mp h
    rw [List.cons_append, wordsFrom, hc, if_neg Bool.false_ne_true, if_neg Bool.false_ne_true,
      ih hfront, List.append_assoc, List.singleton_append]

/-- Behind a blank, a word takes blanks only. -/
theorem wordsFrom_ended (word cs : List Char) : ∃ blanks ws,
    (∀ c ∈ blanks, isBlank c = true) ∧ wordsFrom word true true cs = (word ++ blanks) :: ws := by
  induction cs generalizing word with
  | nil => exact ⟨[], [], by simp, by simp [wordsFrom]⟩
  | cons c cs ih =>
    rw [wordsFrom]
    split
    · next hc =>
      obtain ⟨blanks, ws, hblanks, heq⟩ := ih (word ++ [c])
      exact ⟨c :: blanks, ws, List.forall_mem_cons.mpr ⟨hc, hblanks⟩, by simp [heq]⟩
    · exact ⟨[], _, by simp, by rw [if_pos rfl, List.append_nil]⟩

theorem wordsFrom_head (word : List Char) (ended : Bool) (cs : List Char) :
    ∃ tail ws, wordsFrom word true ended cs = (word ++ tail) :: ws := by
  induction cs generalizing word ended with
  | nil => exact ⟨[], [], by simp [wordsFrom]⟩
  | cons c cs ih =>
    have hlonger : ∀ ended', ∃ tail ws,
        wordsFrom (word ++ [c]) true ended' cs = (word ++ tail) :: ws := fun ended' => by
      obtain ⟨tail, ws, heq⟩ := ih (word ++ [c]) ended'
      exact ⟨c :: tail, ws, by simpa using heq⟩
    rw [wordsFrom]
    split
    · exact hlonger true
    · split
      · exact ⟨[], _, by rw [List.append_nil]⟩
      · exact hlonger false

/-- The words of a line make it up, if there are any. -/
theorem flatten_wordsFrom (word : List Char) (begun ended : Bool) (cs : List Char) :
    wordsFrom word begun ended cs = [] ∨ (wordsFrom word begun ended cs).flatten = word ++ cs := by
  induction cs generalizing word begun ended with
  | nil => cases begun <;> simp [wordsFrom]
  | cons c cs ih =>
    have hlonger : ∀ begun' ended', wordsFrom (word ++ [c]) begun' ended' cs = [] ∨
        (wordsFrom (word ++ [c]) begun' ended' cs).flatten = word ++ c :: cs := fun begun' ended' => by
      simpa using ih (word ++ [c]) begun' ended'
    rw [wordsFrom]
    split
    · exact hlonger begun begun
    · split
      · obtain ⟨tail, ws, hne⟩ := wordsFrom_head [c] false cs
        rcases ih [c] true false with hnil | heq
        · rw [hnil] at hne
          cases hne
        · exact .inr (by rw [List.flatten_cons, heq, List.singleton_append])
      · exact hlonger true false

/-! ### Lines of words -/

theorem pieces_ne_nil (columns : Nat) (word : List Char) : pieces columns word ≠ [] := by
  have hne : ∀ (piece : List Char) (size : Nat) (ks : List Text.Cluster),
      piecesFrom columns piece size ks ≠ [] := by
    intro piece size ks
    induction ks generalizing piece size with
    | nil => simp [piecesFrom]
    | cons k ks ih =>
      rw [piecesFrom]
      split
      · simp
      · exact ih _ _
  exact hne _ _ _

/-- A line that has started goes on with the words that have room on it. -/
theorem linesFrom_started (columns : Nat) (line : List Char) (place : Nat)
    (ws : List (List Char)) :
    ∃ more lines, linesFrom columns true line place ws = (line ++ more) :: lines ∧
      (more = [] ∨ ∃ word rest tail, ws = word :: rest ∧ more = word ++ tail) := by
  induction ws generalizing line place with
  | nil => exact ⟨[], [], by simp [linesFrom], .inl rfl⟩
  | cons word rest ih =>
    rw [linesFrom]
    dsimp only
    split
    · obtain ⟨more, lines, heq, -⟩ := ih (line ++ word) (place + Text.width word)
      exact ⟨word ++ more, lines, by rw [heq, List.append_assoc], .inr ⟨word, rest, more, rfl, rfl⟩⟩
    · split
      · exact ⟨[], _, by rw [List.append_nil], .inl rfl⟩
      · rw [if_pos rfl, List.dropLast_cons_of_ne_nil (pieces_ne_nil columns word)]
        exact ⟨[], _, by rw [List.append_nil, List.cons_append], .inl rfl⟩

/-- Words that have room on a line stay on it. -/
theorem linesFrom_of_room {columns : Nat} {ws : List (List Char)}
    (h : ∀ c ∈ ws.flatten, c ≠ joiner ∧ c ≠ emojiSelector) (started : Bool) (line : List Char)
    {place : Nat} (hroom : place + Text.width ws.flatten ≤ columns) :
    linesFrom columns started line place ws = [line ++ ws.flatten] := by
  induction ws generalizing started line place with
  | nil => rw [linesFrom, List.flatten_nil, List.append_nil]
  | cons word rest ih =>
    rw [List.flatten_cons] at h hroom
    obtain ⟨hword, hrest⟩ := List.forall_mem_append.mp h
    rw [width_append h] at hroom
    have hbare := width_bareWord_le hword
    rw [linesFrom, if_pos (by omega), ih hrest true _ (by omega), List.flatten_cons,
      List.append_assoc]

/-! ### The first line of a text with a label -/

theorem label_of_all {label : List Char}
    (h : (label.all fun c => decide (IsLabelChar c) && !isBlank c) = true) :
    ∀ c ∈ label, IsLabelChar c ∧ isBlank c = false := by
  simpa [List.all_eq_true] using h

section Label

variable {label : List Char} (hlabel : ∀ c ∈ label, IsLabelChar c ∧ isBlank c = false)
  {columns : Nat} (hroom : label.length ≤ columns)

include hlabel

theorem words_label (hne : label ≠ []) (cs : List Char) :
    words (label ++ ' ' :: cs) = wordsFrom (label ++ [' ']) true true cs := by
  have hblank : ∀ c ∈ label, isBlank c = false := fun c hc => (hlabel c hc).2
  cases label with
  | nil => exact absurd rfl hne
  | cons c label =>
    obtain ⟨hc, hrest⟩ := List.forall_mem_cons.mp hblank
    rw [words, List.cons_append, wordsFrom, hc, if_neg Bool.false_ne_true,
      if_neg Bool.false_ne_true, List.nil_append, wordsFrom_solid hrest, wordsFrom,
      if_pos (by decide), List.singleton_append]

theorem bareWord_label {blanks : List Char} (hblanks : ∀ c ∈ blanks, isBlank c = true) :
    bareWord (label ++ blanks) = label := by
  have hfront : label.reverse.dropWhile isBlank = label.reverse := by
    cases hr : label.reverse with
    | nil => rfl
    | cons c cs =>
      have hc : c ∈ label := List.mem_reverse.mp (hr ▸ List.mem_cons_self ..)
      exact List.dropWhile_cons_of_neg (by simp [(hlabel c hc).2])
  rw [bareWord, List.reverse_append,
    List.dropWhile_append_of_pos fun c hc => hblanks c (List.mem_reverse.mp hc), hfront,
    List.reverse_reverse]

include hroom

/-- The first line begins with the label and a blank, and goes on with the first word if anything
else is on it. -/
theorem breakLine_label (hne : label ≠ []) (cs : List Char) :
    ∃ more lines, breakLine columns (label ++ ' ' :: cs) = (label ++ ' ' :: more) :: lines ∧
      ∀ c rest, cs = c :: rest → isBlank c = false → more = [] ∨ ∃ tail, more = c :: tail := by
  have hwidth : Text.width label = label.length :=
    Text.widthAfter_of_narrow (fun c hc => (hlabel c hc).1.1) none
  obtain ⟨blanks, ws, hblanks, hwords⟩ := wordsFrom_ended (label ++ [' ']) cs
  have hblanks' : ∀ c ∈ ' ' :: blanks, isBlank c = true :=
    List.forall_mem_cons.mpr ⟨by decide, hblanks⟩
  have hfirst : label ++ [' '] ++ blanks = label ++ ' ' :: blanks := by simp
  have hbare := bareWord_label hlabel hblanks'
  obtain ⟨more, lines, hlines, hmore⟩ := linesFrom_started columns (label ++ ' ' :: blanks)
    (Text.width (label ++ ' ' :: blanks)) ws
  refine ⟨blanks ++ more, lines, ?_, ?_⟩
  · unfold breakLine
    rw [words_label hlabel hne, hwords, hfirst]
    dsimp only
    rw [linesFrom, hbare, hwidth, if_pos (by omega), List.nil_append, Nat.zero_add, hlines]
    simp
  · rintro c rest rfl hc
    rw [wordsFrom, hc, if_neg Bool.false_ne_true, if_pos rfl] at hwords
    obtain ⟨hempty, hws⟩ := List.cons.inj hwords
    obtain rfl : blanks = [] := by simpa using hempty.symm
    obtain ⟨tail, ws', htail⟩ := wordsFrom_head [c] false rest
    rw [htail] at hws
    rcases hmore with rfl | ⟨word, rest', tail', rfl, rfl⟩
    · exact .inl rfl
    · obtain ⟨rfl, -⟩ := List.cons.inj hws
      exact .inr ⟨tail ++ tail', by simp⟩

end Label

/-! ### From a text to its lines -/

theorem splitAt_front {sep : Char} {front : List Char} (h : sep ∉ front) (cs : List Char) :
    ∃ part parts, splitAt sep cs = part :: parts ∧
      splitAt sep (front ++ cs) = (front ++ part) :: parts := by
  induction front with
  | nil =>
    obtain ⟨part, parts, hparts⟩ := List.exists_cons_of_ne_nil (Text.splitAt_ne_nil sep cs)
    exact ⟨part, parts, hparts, hparts⟩
  | cons c front ih =>
    rw [List.mem_cons, not_or] at h
    obtain ⟨part, parts, hcs, hfront⟩ := ih h.2
    refine ⟨part, parts, hcs, ?_⟩
    rw [List.cons_append, splitAt, hfront]
    exact if_neg (Ne.symm h.1)

/-- Blanks for tabs change nothing in front of the first tab. -/
theorem expandTabs_front (front part : List Char) (parts : List (List Char)) :
    ∃ more, expandTabs 0 ((front ++ part) :: parts) = front ++ more := by
  cases parts with
  | nil => exact ⟨part, rfl⟩
  | cons next parts =>
    rw [expandTabs, List.append_assoc, List.append_assoc]
    · exact ⟨_, rfl⟩
    · exact List.cons_ne_nil next parts

/-- What is shown at the front of a text stays at the front of its first line. -/
theorem consoleLines_front {front : List Char} (h : Shown front) {s : String} {cs : List Char}
    (hs : s.toList = front ++ cs) {columns : Nat} (hpos : columns ≠ 0) :
    ∃ more lines, consoleLines columns s =
      (breakLine columns (front ++ more)).map (fitted columns) ++ lines := by
  have hkept : (dropControls s).toList = front ++ cs.filter fun c => !isControl c := by
    unfold dropControls
    rw [String.toList_ofList, hs, List.filter_append, List.filter_eq_self.mpr]
    intro c hc
    rw [isControl_of_isShown (h c hc)]
    rfl
  obtain ⟨part, parts, -, hsplit⟩ :=
    splitAt_front (h.not_mem (c := '\n') (by decide)) (cs.filter fun c => !isControl c)
  obtain ⟨part', parts', -, htabs⟩ := splitAt_front (h.not_mem (c := '\t') (by decide)) part
  obtain ⟨more, hmore⟩ := expandTabs_front front part' parts'
  refine ⟨more, parts.flatMap fun line =>
    (breakLine columns (expandTabs 0 (splitAt '\t' line))).map (fitted columns), ?_⟩
  unfold consoleLines
  rw [if_neg hpos, hkept, hsplit, List.flatMap_cons, htabs, hmore]

/-- A text takes one line of a console as it is. -/
structure TakesOneLine (columns : Nat) (s : String) : Prop where
  shown : Shown s.toList
  lone : ∀ c ∈ s.toList, c ≠ joiner ∧ c ≠ emojiSelector
  room : Text.width s.toList ≤ columns

theorem shownLines_of_takesOneLine {columns : Nat} (hpos : columns ≠ 0) {s : String}
    (h : TakesOneLine columns s) : shownLines columns s = [s] := by
  have hline : breakLine columns s.toList = [s.toList] := by
    unfold breakLine
    split
    · rfl
    · next hne =>
      rcases flatten_wordsFrom [] false false s.toList with hnil | hflat
      · exact absurd hnil hne
      · have hroom : 0 + Text.width (words s.toList).flatten ≤ columns := by
          rw [words, hflat, List.nil_append, Nat.zero_add]
          exact h.room
        rw [linesFrom_of_room (by rw [words, hflat]; exact h.lone) false [] hroom, words, hflat]
        rfl
  unfold shownLines consoleLines
  rw [if_neg hpos, dropControls_of_shown h.shown,
    Text.splitAt_of_not_mem (h.shown.not_mem (by decide)), List.flatMap_singleton,
    Text.splitAt_of_not_mem (h.shown.not_mem (by decide)), expandTabs, hline, List.map_singleton,
    List.map_singleton, fitted_of_width_le h.room, String.ofList_toList]

/-! ### Diagnoses -/

/-- What is in front of every error. -/
def errorLabel : List Char := ['E', 'r', 'r', 'o', 'r', ':']

/-- A text begins with a letter or a sign that stays where it is. -/
def BeginsFirm (s : String) : Prop :=
  ∃ c rest, s.toList = c :: rest ∧ isShown c = true ∧ IsLabelChar c ∧ isBlank c = false

theorem beginsFirm_append {front : String}
    (h : (front.toList.head?.any fun c => isShown c && decide (IsLabelChar c) && !isBlank c) = true)
    (rest : String) : BeginsFirm (front ++ rest) := by
  unfold BeginsFirm
  rw [String.toList_append]
  cases hfront : front.toList with
  | nil => simp [hfront] at h
  | cons c cs =>
    simp only [hfront, List.head?_cons, Option.any_some, Bool.and_eq_true, decide_eq_true_eq,
      Bool.not_eq_true', and_assoc] at h
    exact ⟨c, cs ++ rest.toList, rfl, h⟩

theorem beginsFirm_message (d : Diagnosis) : BeginsFirm d.message := by
  cases d <;> unfold Diagnosis.message <;> simp only [String.append_assoc]
  case usageConflict =>
    rw [← @String.append_empty "the argument '--locked' cannot be used together with '--frozen'"]
    exact beginsFirm_append (by decide +kernel) ""
  all_goals exact beginsFirm_append (by decide +kernel) _

/-- A diagnosis is shown with its kind in front. -/
theorem errorLines_diagnosis {columns : Nat} (hroom : 8 ≤ columns) (d : Diagnosis) :
    ∃ line lines, errorLines columns d.message = line :: lines ∧
      "Error: ".toList <+: line.toList := by
  have hlabel : ∀ c ∈ errorLabel, IsLabelChar c ∧ isBlank c = false :=
    label_of_all (by decide +kernel)
  obtain ⟨c, rest, hmessage, hc, hcl, hcb⟩ := beginsFirm_message d
  have hs : ("Error: " ++ d.message).toList = (errorLabel ++ [' ', c]) ++ rest := by
    rw [String.toList_append, hmessage]
    rfl
  have hshown : Shown (errorLabel ++ [' ', c]) := by
    refine List.forall_mem_append.mpr ⟨List.all_eq_true.mp (by decide +kernel), ?_⟩
    simp only [List.forall_mem_cons, hc, List.not_mem_nil, false_implies, implies_true, and_true]
    decide
  obtain ⟨more, lines, hlines⟩ :=
    consoleLines_front hshown hs (show columns ≠ 0 by omega)
  obtain ⟨more', lines', hbreak, hmore⟩ := breakLine_label hlabel
    (show 6 ≤ columns by omega) (by decide) (c :: more)
  rw [List.append_assoc, List.cons_append, List.cons_append, List.nil_append, hbreak,
    List.map_cons, List.cons_append] at hlines
  refine ⟨_, _, by rw [errorLines, shownLines, hlines, List.map_cons], ?_⟩
  simp only [String.toList_ofList]
  change errorLabel ++ [' '] <+: fitted columns (errorLabel ++ ' ' :: more')
  rcases hmore c more rfl hcb with rfl | ⟨tail, rfl⟩
  · -- Nothing but the label is on the line, and that has room.
    rw [fitted_of_width_le (le_trans (by decide +kernel) hroom)]
  · have hfront : ∀ x ∈ errorLabel ++ [' ', c], IsLabelChar x := by
      refine List.forall_mem_append.mpr ⟨fun x hx => (hlabel x hx).1, ?_⟩
      simp only [List.forall_mem_cons, hcl, List.not_mem_nil, false_implies, implies_true, and_true]
      decide +kernel
    have hlast : ∀ x ∈ (errorLabel ++ [' ', c]).getLast?, isBlank x = false := by
      simpa using hcb
    have hprefix := prefix_fitted hfront hlast hroom tail
    rw [List.append_assoc] at hprefix
    have hblank : errorLabel ++ [' '] <+: errorLabel ++ [' ', c] := ⟨[c], by simp⟩
    exact hblank.trans hprefix

/-! ### The environment and notes -/

/-- What the lines for the environment begin with. -/
def environmentLabel : List Char := ['E', 'n', 'v', 'i', 'r', 'o', 'n', 'm', 'e', 'n', 't', ':']

theorem environmentLines_label {columns : Nat} (hroom : 12 ≤ columns) (name : String) :
    ∃ line lines, shownLines columns ("Environment: " ++ name) = line :: lines ∧
      environmentLabel <+: line.toList := by
  have hlabel : ∀ c ∈ environmentLabel, IsLabelChar c ∧ isBlank c = false :=
    label_of_all (by decide +kernel)
  have hs : ("Environment: " ++ name).toList = (environmentLabel ++ [' ']) ++ name.toList := by
    rw [String.toList_append]
    rfl
  have hshown : Shown (environmentLabel ++ [' ']) := List.all_eq_true.mp (by decide +kernel)
  obtain ⟨more, lines, hlines⟩ :=
    consoleLines_front hshown hs (show columns ≠ 0 by omega)
  obtain ⟨more', lines', hbreak, -⟩ := breakLine_label hlabel hroom (by decide)
    more
  rw [List.append_assoc, List.singleton_append, hbreak, List.map_cons, List.cons_append] at hlines
  refine ⟨_, _, by rw [shownLines, hlines, List.map_cons], ?_⟩
  rw [String.toList_ofList]
  have hlast : ∀ c ∈ environmentLabel.getLast?, isBlank c = false :=
    fun c hc => (hlabel c (List.mem_of_getLast? hc)).2
  exact prefix_fitted (fun c hc => (hlabel c hc).1) hlast hroom _

/-- A note begins with its level, and goes on behind a margin. -/
theorem not_prefix_of_mem_noteLines {columns : Nat} {n : LogRecord} {line : String}
    (h : line ∈ noteLines columns n) : ¬ environmentLabel <+: line.toList := by
  have hmargin : ∀ i, ∃ c cs, noteMargins n i = c :: cs ∧ c ≠ 'E' := by
    rintro (_ | i)
    · cases hlevel : n.level <;> rw [noteMargins, hlevel]
      · exact ⟨_, _, rfl, by decide⟩
      · exact ⟨_, _, rfl, by decide⟩
    · exact ⟨' ', _, rfl, by decide⟩
  unfold noteLines at h
  dsimp only at h
  obtain ⟨i, hi, rfl⟩ := List.mem_mapIdx.mp h
  obtain ⟨c, cs, hc, hne⟩ := hmargin i
  rw [String.toList_ofList, hc]
  rintro ⟨rest, hrest⟩
  exact hne (List.cons.inj hrest).1.symm

theorem not_prefix_of_mem_trailLines {columns : Nat} {verbose : Bool} {trail : Trail}
    {line : String} (h : line ∈ trailLines columns verbose trail) :
    ¬ environmentLabel <+: line.toList := by
  obtain ⟨n, -, hn⟩ := List.mem_flatMap.mp h
  exact not_prefix_of_mem_noteLines hn

end PinLedger.Command

/-
# Marked-up texts in the table

Names, kinds and sources are shown character by character, whatever they are. Versions and builds
are marked-up text: a tag in them is not shown, nor is a backslash in front of a bracket, and a
name between colons may be shown as an emoji. So a version or build is shown character by character
if it has none of these, and without colons only then. A closing tag with nothing to close breaks
the whole table, and so do tags whose arguments or colours cannot be read.

Key definitions: `Markup.textLength`, `Markup.NoColon`, `Package.IsBroken`, `PrintsMarkup`.
Key theorems: `Markup.length_plainText_lt`, `Markup.isLiteral_of_plainText?`,
`Package.isLiteral_of_shownAs_cells`, `table_shows_marked_up_texts`.
-/
import PinLedger.Proofs.Table.NaturalWidth

namespace PinLedger

open Text

namespace Markup

/-! ### How much is shown -/

theorem dropEscapes_sublist (cs : List Char) : (dropEscapes cs).Sublist cs := by
  fun_induction dropEscapes cs with
  | case1 cs ih => exact (ih.cons_cons '[').cons '\\'
  | case2 c cs _ ih => exact ih.cons_cons c
  | case3 => exact List.Sublist.refl []

theorem length_dropEscapes_lt {cs : List Char} (h : ¬ HasNoEscape cs) :
    (dropEscapes cs).length < cs.length := by
  fun_induction dropEscapes cs with
  | case1 cs ih =>
    have hle := (dropEscapes_sublist cs).length_le
    simp only [List.length_cons]
    omega
  | case2 c cs hother ih =>
    have hfirst : ¬ ['\\', '['] <+: c :: cs := by
      rintro ⟨rest, hrest⟩
      obtain ⟨rfl, hcs⟩ := List.cons.inj hrest
      exact hother rest rfl hcs.symm
    have hrest : ¬ HasNoEscape cs := fun hcs => h (hasNoEscape_cons.mpr ⟨hfirst, hcs⟩)
    exact Nat.succ_lt_succ (ih hrest)
  | case3 => exact absurd (by decide) h

/-- How many characters the texts among pieces have. -/
def textLength : List Piece → ℕ
  | [] => 0
  | .text cs :: ps => cs.length + textLength ps
  | _ :: ps => textLength ps

theorem textLength_append (ps qs : List Piece) :
    textLength (ps ++ qs) = textLength ps + textLength qs := by
  fun_induction textLength ps with
  | case1 => exact (Nat.zero_add _).symm
  | case2 cs ps ih => rw [List.cons_append, textLength, ih, Nat.add_assoc]
  | case3 p ps hother ih => rw [List.cons_append, textLength, ih]; exact hother

theorem textLength_ofText (cs : List Char) : textLength (ofText cs) = cs.length := by
  cases cs <;> rfl

/-- What a tag consists of: backslashes, and its body in brackets. -/
theorem eq_of_tagAt? {cs : List Char} {t : FoundTag} (h : tagAt? cs = some t) :
    ∃ rest, cs = List.replicate t.backslashes '\\' ++ '[' :: t.body ++ ']' :: rest := by
  have hfront := List.prefix_iff_eq_append.mp (List.takeWhile_prefix (l := cs) (· == '\\'))
  have hbackslashes : cs.takeWhile (· == '\\') =
      List.replicate (cs.takeWhile (· == '\\')).length '\\' :=
    List.eq_replicate_length.mpr fun c hc => by simpa using List.mem_takeWhile_imp hc
  unfold tagAt? at h
  dsimp only at h
  split at h
  · rename_i c rest hdrop
    split at h
    · rename_i htag
      obtain rfl := Option.some.inj h
      obtain ⟨-, hclosed⟩ := Bool.and_eq_true_iff.mp htag
      obtain ⟨after, hafter⟩ := List.head?_eq_some_iff.mp (beq_iff_eq.mp hclosed)
      have hrest := List.prefix_iff_eq_append.mp
        (List.takeWhile_prefix (l := rest) fun d => d != '[' && d != ']')
      refine ⟨after, ?_⟩
      dsimp only
      rw [← hbackslashes, ← hafter, List.append_assoc, List.cons_append, List.cons_append, hrest,
        ← hdrop, hfront]
    · cases h
  · cases h

theorem length_le_of_tagAt? {cs : List Char} {t : FoundTag} (h : tagAt? cs = some t) :
    t.length ≤ cs.length := by
  obtain ⟨rest, rfl⟩ := eq_of_tagAt? h
  simp only [FoundTag.length, List.length_append, List.length_replicate, List.length_cons]
  omega

theorem textLength_ofBody (body : List Char) : textLength [ofBody body] = 0 := by
  unfold ofBody
  dsimp only
  split <;> rfl

/-- A tag shows less than it takes. -/
theorem textLength_tag_lt (t : FoundTag) : textLength t.pieces < t.length := by
  unfold FoundTag.pieces
  rw [textLength_append, textLength_ofText, List.length_replicate, FoundTag.length]
  split
  · simp only [textLength, List.length_append, List.length_cons, List.length_nil]
    omega
  · rw [textLength_ofBody]
    omega

theorem textLength_piecesFrom_le (skip : ℕ) (pending cs : List Char) :
    textLength (piecesFrom skip pending cs) ≤ pending.length + (cs.length - skip) := by
  fun_induction piecesFrom skip pending cs with
  | case1 skip pending =>
    rw [textLength_ofText]
    omega
  | case2 n pending c cs ih =>
    rw [List.length_cons]
    omega
  | case3 pending c cs t ht ih =>
    have htag := textLength_tag_lt t
    have hlength := length_le_of_tagAt? ht
    rw [textLength_append, textLength_append, textLength_ofText]
    simp only [List.length_nil, List.length_cons] at ih hlength ⊢
    omega
  | case4 pending c cs hnone ih =>
    simp only [List.length_append, List.length_cons, List.length_nil] at ih ⊢
    omega

/-- A text with a tag shows less than it has. -/
theorem textLength_piecesFrom_lt {cs : List Char} (h : ¬ HasNoTag cs) (pending : List Char) :
    textLength (piecesFrom 0 pending cs) < pending.length + cs.length := by
  induction cs generalizing pending with
  | nil => exact absurd (by decide) h
  | cons c cs ih =>
    rw [piecesFrom]
    cases ht : tagAt? (c :: cs) with
    | some t =>
      have hrest := textLength_piecesFrom_le (t.length - 1) [] cs
      have htag := textLength_tag_lt t
      have hlength := length_le_of_tagAt? ht
      dsimp only
      rw [textLength_append, textLength_append, textLength_ofText]
      simp only [List.length_nil, List.length_cons] at hrest hlength ⊢
      omega
    | none =>
      have hlt := ih (fun hcs => h (hasNoTag_cons.mpr ⟨ht, hcs⟩)) (pending ++ [c])
      simp only [List.length_append, List.length_cons, List.length_nil] at hlt ⊢
      omega

/-! ### What is shown -/

/-- No text among pieces has a colon, so none has the name of an emoji. -/
def NoColon (ps : List Piece) : Prop := ∀ cs, .text cs ∈ ps → ':' ∉ cs

theorem noColon_append {ps qs : List Piece} : NoColon (ps ++ qs) ↔ NoColon ps ∧ NoColon qs := by
  simp only [NoColon, List.mem_append, or_imp, forall_and]

theorem noColon_cons {p : Piece} {ps : List Piece} :
    NoColon (p :: ps) ↔ NoColon [p] ∧ NoColon ps := by
  rw [← List.singleton_append, noColon_append]

theorem noColon_text {cs : List Char} : NoColon [.text cs] ↔ ':' ∉ cs := by
  simp only [NoColon, List.mem_singleton, Piece.text.injEq, forall_eq]

theorem noColon_ofText {cs : List Char} (h : ':' ∉ cs) : NoColon (ofText cs) := by
  cases cs with
  | nil => exact fun _ hmem => absurd hmem List.not_mem_nil
  | cons c cs => exact noColon_text.mpr h

theorem noColon_ofBody (body : List Char) : NoColon [ofBody body] := by
  intro cs hmem
  have hbody := List.mem_singleton.mp hmem
  unfold ofBody at hbody
  dsimp only at hbody
  split at hbody <;> cases hbody

theorem noColon_tag {t : FoundTag} (h : ':' ∉ t.body) : NoColon t.pieces := by
  have hslashes : ':' ∉ List.replicate (t.backslashes / 2) '\\' :=
    fun hmem => absurd (List.eq_of_mem_replicate hmem) (by decide)
  unfold FoundTag.pieces
  rw [noColon_append]
  refine ⟨noColon_ofText hslashes, ?_⟩
  split
  · rw [noColon_text]
    simpa using h
  · exact noColon_ofBody t.body

theorem noColon_piecesFrom {cs : List Char} (hcs : ':' ∉ cs) (skip : ℕ) {pending : List Char}
    (hpending : ':' ∉ pending) : NoColon (piecesFrom skip pending cs) := by
  fun_induction piecesFrom skip pending cs with
  | case1 skip pending => exact noColon_ofText hpending
  | case2 n pending c cs ih => exact ih (fun hmem => hcs (List.mem_cons_of_mem c hmem)) hpending
  | case3 pending c cs t ht ih =>
    have hbody : ':' ∉ t.body := by
      obtain ⟨rest, hrest⟩ := eq_of_tagAt? ht
      rw [hrest] at hcs
      exact fun hmem => hcs (by simp [hmem])
    rw [noColon_append, noColon_append]
    exact ⟨⟨noColon_ofText hpending, noColon_tag hbody⟩,
      ih (fun hmem => hcs (List.mem_cons_of_mem c hmem)) List.not_mem_nil⟩
  | case4 pending c cs hnone ih =>
    obtain ⟨hc, hrest⟩ := not_or.mp (mt List.mem_cons.mpr hcs)
    exact ih hrest (by simp [hpending, hc])

/-- Without names of emoji, no more is shown than the texts have. -/
theorem length_renderFrom_le {stack : List OpenTag} {ps : List Piece} (h : NoColon ps)
    {r : Rendered} (hr : renderFrom stack ps = .ok r) : r.text.length ≤ textLength ps := by
  fun_induction renderFrom stack ps generalizing r with
  | case1 =>
    obtain rfl := Except.ok.inj hr
    exact le_rfl
  | case2 stack cs rest ih =>
    obtain ⟨hcs, hrest⟩ := noColon_cons.mp h
    obtain ⟨shown, hshown, hr⟩ := Outcome.bind_eq_ok_iff.mp hr
    obtain rfl := Except.ok.inj hr
    rw [replaceEmoji_of_not_mem fun hmem => noColon_text.mp hcs ((dropEscapes_sublist _).mem hmem),
      Rendered.behind, List.length_append, textLength]
    exact Nat.add_le_add (dropEscapes_sublist cs).length_le (ih hrest hshown)
  | case3 stack name parameters rest ih =>
    obtain ⟨style, -, hrest⟩ := Outcome.bind_eq_ok_iff.mp hr
    exact ih style (noColon_cons.mp h).2 hrest
  | case4 stack name rest ih =>
    obtain ⟨⟨style, stack'⟩, -, hrest⟩ := Outcome.bind_eq_ok_iff.mp hr
    obtain ⟨shown, hshown, hr⟩ := Outcome.bind_eq_ok_iff.mp hrest
    obtain rfl := Except.ok.inj hr
    have hle := ih stack' (noColon_cons.mp h).2 hshown
    exact hle

/-- Of a text without colons that is no literal one, less is shown than it has. -/
theorem length_plainText_lt {s t : String} (hcolon : ':' ∉ s.toList)
    (hliteral : ¬ IsLiteral s.toList) (ht : plainText? s = some t) :
    t.toList.length < s.toList.length := by
  by_cases htag : HasNoTag s.toList
  · have hescape : ¬ HasNoEscape s.toList :=
      fun h => hliteral ⟨htag, h, replaceEmoji_of_not_mem hcolon⟩
    rw [plainText?_of_hasNoTag htag, replaceEmoji_of_not_mem
      fun hmem => hcolon ((dropEscapes_sublist _).mem hmem)] at ht
    obtain rfl := Option.some.inj ht
    rw [String.toList_ofList]
    exact length_dropEscapes_lt hescape
  · obtain ⟨r, hr, -, rfl⟩ := plainText?_eq_some_iff.mp ht
    rw [String.toList_ofList]
    have hle := length_renderFrom_le (noColon_piecesFrom hcolon 0 List.not_mem_nil) hr
    have hlt := textLength_piecesFrom_lt htag []
    rw [List.length_nil, Nat.zero_add] at hlt
    exact hle.trans_lt hlt

/-- Without colons, no text but a literal one is shown in full length. -/
theorem isLiteral_of_plainText? {s t : String} (hcolon : ':' ∉ s.toList)
    (ht : plainText? s = some t) (hlength : s.toList.length ≤ t.toList.length) :
    IsLiteral s.toList := by
  by_contra hliteral
  exact absurd (length_plainText_lt hcolon hliteral ht) (Nat.not_lt.mpr hlength)

end Markup

/-! ### The cells of a package -/

namespace Package

/-- A tag in the version or the build closes nothing or cannot be read. -/
def IsBroken (p : Package) : Prop :=
  Markup.plainText? p.version = none ∨ Markup.plainText? (p.build.getD "") = none

theorem not_isBroken_iff {p : Package} : ¬ p.IsBroken ↔ ∃ row, p.ShownAs row := by
  simp only [IsBroken, ShownAs, not_or, ← ne_eq, Option.ne_none_iff_exists']
  constructor
  · rintro ⟨⟨version, hversion⟩, build, hbuild⟩
    exact ⟨_, version, build, hversion, hbuild, rfl⟩
  · rintro ⟨_, version, build, hversion, hbuild, -⟩
    exact ⟨⟨version, hversion⟩, build, hbuild⟩

theorem length_dropControls_le (s : String) :
    (dropControls s).toList.length ≤ s.toList.length := by
  rw [dropControls, String.toList_ofList]
  exact List.length_filter_le ..

/-- Without colons, no package but a literal one is shown as it is. -/
theorem isLiteral_of_shownAs_cells {p : Package} (hversion : ':' ∉ p.version.toList)
    (hbuild : ':' ∉ (p.build.getD "").toList) (h : p.ShownAs p.cells) : p.IsLiteral := by
  obtain ⟨version, build, hversion', hbuild', hcells⟩ := h
  simp only [cells, cellsWith, List.cons.injEq, true_and, and_true] at hcells
  refine ⟨Markup.isLiteral_of_plainText? hversion hversion' ?_,
    Markup.isLiteral_of_plainText? hbuild hbuild' ?_⟩
  · rw [hcells.1]
    exact length_dropControls_le version
  · rw [hcells.2]
    exact length_dropControls_le build

end Package

/-! ### The table -/

theorem exists_rows_of_not_isBroken {ps : List Package} (h : ∀ p ∈ ps, ¬ p.IsBroken) :
    ∃ rows, List.Forall₂ Package.ShownAs ps rows := by
  induction ps with
  | nil => exact ⟨[], .nil⟩
  | cons p ps ih =>
    obtain ⟨hp, hps⟩ := List.forall_mem_cons.mp h
    obtain ⟨row, hrow⟩ := Package.not_isBroken_iff.mp hp
    obtain ⟨rows, hrows⟩ := ih hps
    exact ⟨row :: rows, .cons hrow hrows⟩

section Print

variable {style : TableStyle} (hstyle : style.IsUsable) {ps : List Package}
  (h : ∀ p ∈ ps, p.IsShown)

include hstyle h

/-- One broken package breaks the table, in the way of the first text that cannot be shown. If all
can be, it is a style that cannot be looked up. -/
theorem printTable_of_isBroken (hbroken : ∃ p ∈ ps, p.IsBroken) (consoleWidth : Nat) :
    printTable consoleWidth style ps =
      .error (.breakdown (((firstFault ps).map Markup.Fault.breakdown).getD .outOfRange)) := by
  have hnone : ∀ rows, ¬ List.Forall₂ Package.ShownAs ps rows := by
    obtain ⟨p, hp, hbroken⟩ := hbroken
    intro rows hrows
    obtain ⟨row, -, hrow⟩ := Outcome.exists_of_mem_right hrows.flip hp
    exact Package.not_isBroken_iff.mpr ⟨row, hrow⟩ hbroken
  rw [printTable_eq_map hstyle h, cells_rows_eq_error hstyle h style.header hnone]
  rfl

/-- Packages without broken tags are printed with their cells below the headers. -/
theorem printTable_of_not_isBroken (hbroken : ∀ p ∈ ps, ¬ p.IsBroken) :
    ∃ rows, List.Forall₂ Package.ShownAs ps rows ∧ ∀ consoleWidth,
      printTable consoleWidth style ps =
        .ok ⟨String.ofList ((tableLines (columnHeaders :: rows)).flatMap (· ++ ['\n'])),
          max consoleWidth (tableWidth (columnWidths (columnHeaders :: rows)))⟩ := by
  obtain ⟨rows, hrows⟩ := exists_rows_of_not_isBroken hbroken
  exact ⟨rows, hrows, printTable_of_shownAs hstyle h hrows⟩

/-- Packages that are shown as they are are printed at the table's natural width. -/
theorem printTable_of_shownAs_cells (hcells : ∀ p ∈ ps, p.ShownAs p.cells) :
    ∃ t : TableLayout, t.Shows ps ∧ ∀ consoleWidth,
      printTable consoleWidth style ps =
        .ok ⟨t.text, max consoleWidth (tableWidth t.widths)⟩ := by
  have hrows : List.Forall₂ Package.ShownAs ps (ps.map Package.cells) := by
    rwa [List.forall₂_map_right_iff, List.forall₂_same]
  refine ⟨.ofRows columnHeaders (ps.map Package.cells), TableLayout.shows_ofRows h,
    fun consoleWidth => ?_⟩
  rw [printTable_of_shownAs hstyle h hrows, TableLayout.tableLines_cells h, TableLayout.text,
    TableLayout.widths_ofRows]

end Print

/-- How the table of packages treats what is marked up in their versions and builds. -/
structure PrintsMarkup (style : TableStyle) (ps : List Package) : Prop where
  /-- The table fails exactly if a tag closes nothing or cannot be read, in the way of the first
  text that has such a tag. -/
  fails : ∀ consoleWidth failure, printTable consoleWidth style ps = .error failure ↔
    (∃ p ∈ ps, p.IsBroken) ∧
      failure = .breakdown (((firstFault ps).map Markup.Fault.breakdown).getD .outOfRange)
  /-- Else it shows versions and builds as marked-up texts, and all the rest as it is. -/
  shows : (∀ p ∈ ps, ¬ p.IsBroken) →
    ∃ rows, List.Forall₂ Package.ShownAs ps rows ∧ ∀ consoleWidth,
      printTable consoleWidth style ps =
        .ok ⟨String.ofList ((tableLines (columnHeaders :: rows)).flatMap (· ++ ['\n'])),
          max consoleWidth (tableWidth (columnWidths (columnHeaders :: rows)))⟩
  /-- If these show every version and every build character by character, the table has its natural
  width. -/
  natural : (∀ p ∈ ps, p.ShownAs p.cells) →
    ∃ t : TableLayout, t.Shows ps ∧ ∀ consoleWidth,
      printTable consoleWidth style ps =
        .ok ⟨t.text, max consoleWidth (tableWidth t.widths)⟩
  /-- Texts without tags, escapes and names of emoji are shown so. -/
  literal : ∀ p ∈ ps, p.IsLiteral → p.ShownAs p.cells
  /-- Of texts without colons, no other ones are. -/
  isLiteral : ∀ p ∈ ps, ':' ∉ p.version.toList → ':' ∉ (p.build.getD "").toList →
    p.ShownAs p.cells → p.IsLiteral

/-- Versions and builds are shown as the marked-up texts that they are: literally where they have no
tags, escapes and names of emoji, and not at all if a tag closes nothing or cannot be read. -/
theorem table_shows_marked_up_texts {style : TableStyle} (hstyle : style.IsUsable)
    {ps : List Package} (h : ∀ p ∈ ps, p.IsShown) : PrintsMarkup style ps where
  fails consoleWidth failure := by
    constructor
    · intro hfails
      have hbroken : ∃ p ∈ ps, p.IsBroken := by
        by_contra hnone
        push Not at hnone
        obtain ⟨rows, -, hok⟩ := printTable_of_not_isBroken hstyle h hnone
        rw [hok] at hfails
        cases hfails
      rw [printTable_of_isBroken hstyle h hbroken] at hfails
      exact ⟨hbroken, (Except.error.inj hfails).symm⟩
    · rintro ⟨hbroken, rfl⟩
      exact printTable_of_isBroken hstyle h hbroken consoleWidth
  shows := printTable_of_not_isBroken hstyle h
  natural := printTable_of_shownAs_cells hstyle h
  literal p hp := (h p hp).shownAs_cells
  isLiteral _ _ := Package.isLiteral_of_shownAs_cells

/-- A package whose version has a tag that opens. -/
def taggedPackage : Package := ⟨"a", "1[b]2", some "h0_0", none, .conda, none, true, false⟩

/-- A package whose version has brackets, but no tag. -/
def bracketedPackage : Package := ⟨"b", "[1.0]", none, some 7, .pypi, none, false, false⟩

/-- A package whose version is a tag that closes nothing. -/
def brokenPackage : Package := ⟨"c", "[/]", some "h0_0", none, .conda, none, true, false⟩

theorem isShown_taggedPackage : taggedPackage.IsShown :=
  ⟨by decide, by decide, by decide, by decide, "", rfl⟩

theorem isShown_bracketedPackage : bracketedPackage.IsShown :=
  ⟨by decide, by decide, by decide, by decide, "7 bytes", by decide +kernel⟩

theorem isShown_brokenPackage : brokenPackage.IsShown :=
  ⟨by decide, by decide, by decide, by decide, "", rfl⟩

theorem printsMarkup_of_packages :
    ({} : TableStyle).IsUsable ∧
    (∀ p ∈ [taggedPackage, bracketedPackage, brokenPackage], p.IsShown) ∧
    PrintsMarkup {} [taggedPackage, bracketedPackage, brokenPackage] := by
  have hshown : ∀ p ∈ [taggedPackage, bracketedPackage, brokenPackage], p.IsShown := by
    rw [List.forall_mem_cons, List.forall_mem_cons, List.forall_mem_singleton]
    exact ⟨isShown_taggedPackage, isShown_bracketedPackage, isShown_brokenPackage⟩
  exact ⟨isUsable_usual, hshown, table_shows_marked_up_texts isUsable_usual hshown⟩

/-- Brackets that are no tag are shown. -/
example : bracketedPackage.IsLiteral :=
  ⟨⟨by decide, by decide, by decide +kernel⟩, ⟨by decide, by decide, rfl⟩⟩

theorem shownAs_taggedPackage :
    taggedPackage.ShownAs ["a", "12", "h0_0", "", "conda", ""] := by
  have hversion : Markup.plainText? taggedPackage.version = some "12" := by decide +kernel
  have hbuild : Markup.plainText? (taggedPackage.build.getD "") = some "h0_0" := by decide +kernel
  exact ⟨_, _, hversion, hbuild, by decide +kernel⟩

/-- The tag of a version is not shown, and a tag that closes nothing breaks the table. -/
theorem version_is_not_literal :
    taggedPackage.IsShown ∧
    (∃ text, printTable 80 {} [taggedPackage] = .ok ⟨text, 80⟩ ∧
      ¬ taggedPackage.version.toList <:+: text.toList) ∧
    brokenPackage.IsShown ∧
    printTable 80 {} [brokenPackage] = .error (.breakdown .markup) := by
  have hprint := printTable_of_shownAs isUsable_usual
    (List.forall_mem_singleton.mpr isShown_taggedPackage) (.cons shownAs_taggedPackage .nil) 80
  have hwidth : max 80 (tableWidth (columnWidths
      [columnHeaders, ["a", "12", "h0_0", "", "conda", ""]])) = 80 := by decide +kernel
  have hbracket : '[' ∉ (tableLines
      [columnHeaders, ["a", "12", "h0_0", "", "conda", ""]]).flatMap (· ++ ['\n']) := by
    decide +kernel
  have hbroken : brokenPackage.IsBroken := .inl (by decide +kernel)
  have hfault : firstFault [brokenPackage] = some .broken := by decide +kernel
  have hfails := printTable_of_isBroken isUsable_usual
    (List.forall_mem_singleton.mpr isShown_brokenPackage) ⟨_, List.mem_singleton_self _, hbroken⟩ 80
  rw [hwidth] at hprint
  rw [hfault] at hfails
  refine ⟨isShown_taggedPackage, ⟨_, hprint, ?_⟩, isShown_brokenPackage, hfails⟩
  rw [String.toList_ofList]
  exact fun hshown => hbracket (hshown.subset (by decide))

end PinLedger

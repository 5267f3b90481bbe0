/-
# Plain texts in the table

Texts without control characters, tabs and line separators take one line of a cell and are shown
character by character. Versions and builds are marked-up text; without tags, escapes and names of
emoji they are shown as they are too, and so they are without brackets, backslashes and colons. The
cells of a package are then its texts themselves.

Key definitions: `isShown`, `Shown`, `Markup.HasNoTag`, `Markup.HasNoEscape`, `Markup.IsLiteral`,
`Markup.Unmarked`, `Markup.plainText?`, `Package.IsShown`, `Package.IsPlain`, `Package.cells`,
`Package.ShownAs`, `TableStyle.IsUsable`, `firstFault`.
Key theorems: `Markup.render_of_hasNoTag`, `Markup.IsLiteral.plainText?_eq`, `shown_sizeText`,
`Package.IsShown.shownAs_cells`, `cells_rows_eq_ok_iff`, `cells_rows_eq_error`.
-/
import Mathlib
import PinLedger.Proofs.Json.Numeral
import PinLedger.Proofs.Outcome
import PinLedger.Table.Layout

namespace PinLedger

open Text

/-! ### Characters that are shown -/

/-- A character that neither controls the terminal nor ends a line. -/
def isShown (c : Char) : Bool :=
  0x20 ≤ c.toNat && !(0x7F ≤ c.toNat && c.toNat ≤ 0x9F) && c != '\u2028' && c != '\u2029'

/-- Every character is shown. -/
def Shown (cs : List Char) : Prop := ∀ c ∈ cs, isShown c = true

instance (cs : List Char) : Decidable (Shown cs) :=
  decidable_of_iff (cs.all isShown = true) List.all_eq_true

theorem shown_append {cs ds : List Char} : Shown (cs ++ ds) ↔ Shown cs ∧ Shown ds :=
  List.forall_mem_append

theorem Shown.not_mem {cs : List Char} (h : Shown cs) {c : Char} (hc : isShown c = false) :
    c ∉ cs := by
  intro hmem
  rw [h c hmem] at hc
  cases hc

theorem isShown_of_ascii {c : Char} (hfirst : 0x20 ≤ c.toNat) (hlast : c.toNat ≤ 0x7E) :
    isShown c = true := by
  have hline : c ≠ '\u2028' := fun h => absurd (h ▸ hlast) (by decide)
  have hpart : c ≠ '\u2029' := fun h => absurd (h ▸ hlast) (by decide)
  simp [isShown, hfirst, hline, hpart]
  omega

theorem isControl_of_isShown {c : Char} (h : isShown c = true) : isControl c = false := by
  rw [Bool.eq_false_iff]
  intro hc
  simp only [isControl, Bool.or_eq_true, beq_iff_eq] at hc
  rcases hc with (((rfl | rfl) | rfl) | rfl) | rfl <;> exact absurd h (by decide)

theorem endsCellLine_of_isShown {c : Char} (h : isShown c = true) : endsCellLine c = false := by
  rw [Bool.eq_false_iff]
  intro hc
  simp only [endsCellLine, Bool.or_eq_true, Bool.and_eq_true, decide_eq_true_eq, beq_iff_eq] at hc
  rcases hc with (((rfl | hrange) | rfl) | rfl) | rfl
  · exact absurd h (by decide)
  · have hfirst : 0x20 ≤ c.toNat := by
      simp only [isShown, Bool.and_eq_true, decide_eq_true_eq] at h
      exact h.1.1.1
    omega
  all_goals exact absurd h (by decide)

theorem dropControls_of_shown {s : String} (h : Shown s.toList) : dropControls s = s := by
  have hkept : s.toList.filter (fun c => !isControl c) = s.toList := by
    rw [List.filter_eq_self]
    intro c hc
    rw [isControl_of_isShown (h c hc)]
    rfl
  rw [dropControls, hkept, String.ofList_toList]

/-! ### Marked-up text -/

namespace Markup

/-- No tag begins anywhere in a text. -/
def HasNoTag (cs : List Char) : Prop := ∀ suffix, suffix <:+ cs → tagAt? suffix = none

/-- No bracket of a text has a backslash in front of it. -/
def HasNoEscape (cs : List Char) : Prop := ¬ ['\\', '['] <:+: cs

instance (cs : List Char) : Decidable (HasNoTag cs) :=
  decidable_of_iff (∀ suffix ∈ cs.tails, tagAt? suffix = none) <| by
    simp only [HasNoTag, List.mem_tails]

instance (cs : List Char) : Decidable (HasNoEscape cs) :=
  inferInstanceAs (Decidable (¬ ['\\', '['] <:+: cs))

theorem hasNoTag_cons {c : Char} {cs : List Char} :
    HasNoTag (c :: cs) ↔ tagAt? (c :: cs) = none ∧ HasNoTag cs := by
  simp only [HasNoTag, List.suffix_cons_iff, or_imp, forall_and, forall_eq]

theorem hasNoEscape_cons {c : Char} {cs : List Char} :
    HasNoEscape (c :: cs) ↔ ¬ ['\\', '['] <+: c :: cs ∧ HasNoEscape cs := by
  rw [HasNoEscape, List.infix_cons_iff, not_or]
  rfl

theorem piecesFrom_of_hasNoTag {cs : List Char} (h : HasNoTag cs) (pending : List Char) :
    piecesFrom 0 pending cs = ofText (pending ++ cs) := by
  induction cs generalizing pending with
  | nil => rw [List.append_nil, piecesFrom]
  | cons c cs ih =>
    obtain ⟨hfirst, hrest⟩ := hasNoTag_cons.mp h
    rw [piecesFrom, hfirst]
    dsimp only
    rw [ih hrest, List.append_assoc, List.singleton_append]

theorem dropEscapes_of_hasNoEscape {cs : List Char} (h : HasNoEscape cs) : dropEscapes cs = cs := by
  induction cs with
  | nil => rfl
  | cons c cs ih =>
    obtain ⟨hfirst, hrest⟩ := hasNoEscape_cons.mp h
    rw [dropEscapes, ih hrest]
    rintro rest rfl rfl
    exact hfirst ⟨rest, rfl⟩

/-- Of a text without tags, backslashes and names of emoji are all that is not shown. -/
theorem render_of_hasNoTag {s : String} (h : HasNoTag s.toList) :
    render s = .ok ⟨replaceEmoji (dropEscapes s.toList), []⟩ := by
  rw [render, pieces, piecesFrom_of_hasNoTag h, List.nil_append, ofText]
  cases s.toList with
  | nil => rfl
  | cons c cs =>
    change Except.ok (Rendered.behind ⟨[], []⟩ _) = _
    rw [Rendered.behind, List.append_nil]

/-- No style of a list breaks down when it is looked up. -/
def LooksUp (styles : List String) : Prop := ∀ s ∈ styles, Style.breaks s = false

theorem looksUp_append {ss ts : List String} : LooksUp (ss ++ ts) ↔ LooksUp ss ∧ LooksUp ts :=
  List.forall_mem_append

theorem any_breaks_eq_false_iff {styles : List String} :
    styles.any Style.breaks = false ↔ LooksUp styles := by
  simp [LooksUp]

/-- What a marked-up text shows, if its tags are in order and its styles can be looked up. -/
def plainText? (s : String) : Option String :=
  match render s with
  | .ok r => if r.styles.any Style.breaks then none else some (String.ofList r.text)
  | .error _ => none

theorem plainText?_eq_some_iff {s t : String} : plainText? s = some t ↔
    ∃ r, render s = .ok r ∧ LooksUp r.styles ∧ String.ofList r.text = t := by
  unfold plainText?
  cases render s <;> simp [LooksUp]

theorem plainText?_of_hasNoTag {s : String} (h : HasNoTag s.toList) :
    plainText? s = some (String.ofList (replaceEmoji (dropEscapes s.toList))) :=
  plainText?_eq_some_iff.mpr ⟨_, render_of_hasNoTag h, List.forall_mem_nil _, rfl⟩

theorem replaceEmoji_of_not_mem {cs : List Char} (h : ':' ∉ cs) : replaceEmoji cs = cs := by
  unfold replaceEmoji
  induction cs with
  | nil => rfl
  | cons c cs ih =>
    obtain ⟨hc, hrest⟩ := not_or.mp (mt List.mem_cons.mpr h)
    have hname : emojiName? (c :: cs) = none := by
      unfold emojiName?
      split
      · rename_i heq
        exact absurd (List.cons.inj heq).1.symm hc
      · rfl
    rw [replaceEmojiFrom, hname]
    dsimp only
    rw [ih hrest]

/-- A text without tags, escapes and names of emoji. -/
structure IsLiteral (cs : List Char) : Prop where
  tag : HasNoTag cs
  escape : HasNoEscape cs
  emoji : replaceEmoji cs = cs

theorem IsLiteral.plainText?_eq {s : String} (h : IsLiteral s.toList) : plainText? s = some s := by
  rw [plainText?_of_hasNoTag h.tag, dropEscapes_of_hasNoEscape h.escape, h.emoji,
    String.ofList_toList]

/-- Without these characters a text has no tags, no escapes and no names of emoji. -/
def Unmarked (cs : List Char) : Prop := '[' ∉ cs ∧ '\\' ∉ cs ∧ ':' ∉ cs

instance (cs : List Char) : Decidable (Unmarked cs) :=
  inferInstanceAs (Decidable ('[' ∉ cs ∧ '\\' ∉ cs ∧ ':' ∉ cs))

theorem tagAt?_of_ne {c : Char} (hbracket : c ≠ '[') (hbackslash : c ≠ '\\') (cs : List Char) :
    tagAt? (c :: cs) = none := by
  have hfirst : (c :: cs).takeWhile (· == '\\') = [] :=
    List.takeWhile_cons_of_neg (by simpa using hbackslash)
  unfold tagAt?
  simp only [hfirst, List.length_nil, List.drop_zero]
  split
  · rename_i heq
    exact absurd (List.cons.inj heq).1 hbracket
  · rfl

theorem Unmarked.isLiteral {cs : List Char} (h : Unmarked cs) : IsLiteral cs := by
  obtain ⟨hbracket, hbackslash, hcolon⟩ := h
  refine ⟨fun suffix hsuffix => ?_, fun hescape => ?_, replaceEmoji_of_not_mem hcolon⟩
  · cases suffix with
    | nil => rfl
    | cons c rest =>
      have hc : c ∈ cs := hsuffix.subset (List.mem_cons_self ..)
      exact tagAt?_of_ne (ne_of_mem_of_not_mem hc hbracket) (ne_of_mem_of_not_mem hc hbackslash) _
  · exact hbackslash (hescape.subset (List.mem_cons_self ..))

end Markup

/-! ### Sizes -/

theorem isShown_of_isDigit {c : Char} (h : Number.isDigit c = true) : isShown c = true := by
  simp only [Number.isDigit, Bool.and_eq_true, decide_eq_true_eq, Char.le_def,
    UInt32.le_iff_toNat_le] at h
  have hfirst : 0x30 ≤ c.toNat := h.1
  have hlast : c.toNat ≤ 0x39 := h.2
  exact isShown_of_ascii (by omega) (by omega)

theorem mem_commas {c : Char} {ds : List Char} (h : c ∈ Number.commas ds) : c = ',' ∨ c ∈ ds := by
  induction ds with
  | nil => exact absurd h List.not_mem_nil
  | cons d ds ih =>
    rw [Number.commas, List.cons_append, List.mem_cons, List.mem_append] at h
    rcases h with rfl | hcomma | hrest
    · exact .inr (List.mem_cons_self ..)
    · split at hcomma
      · exact .inl (List.mem_singleton.mp hcomma)
      · exact absurd hcomma List.not_mem_nil
    · exact (ih hrest).imp_right (List.mem_cons_of_mem d)

theorem shown_grouped (n : Nat) : Shown (Number.grouped n).toList := by
  intro c hc
  rw [Number.grouped, String.toList_ofList] at hc
  rcases mem_commas hc with rfl | hdigit
  · decide
  · exact isShown_of_isDigit (Number.isDigit_of_mem_toDigits hdigit)

theorem mem_of_unitOf {n size size' : Nat} {unit : String} {units : List String}
    (h : unitOf n size units = some (unit, size')) : unit ∈ units := by
  fun_induction unitOf n size units with
  | case1 => cases h
  | case2 => simp_all
  | case3 => simp_all
  | case4 size unit units _ hlarge ih => exact List.mem_cons_of_mem _ (ih h)

/-- The text of a size is shown as it is. -/
theorem shown_sizeText {n : Int} {text : String} (h : sizeText n = some text) :
    Shown text.toList := by
  unfold sizeText at h
  split at h
  · obtain rfl := Option.some.inj h
    decide
  split at h
  · obtain rfl := Option.some.inj h
    have hsign : Shown (if n < 0 then "-" else "").toList := by split <;> decide
    have hunit : Shown " bytes".toList := by decide
    rw [bytesText, String.toList_append, String.toList_append, shown_append, shown_append]
    exact ⟨⟨hsign, shown_grouped _⟩, hunit⟩
  · simp only [Option.bind_eq_bind, Option.bind_eq_some_iff] at h
    obtain ⟨⟨unit, size⟩, hunit, ⟨mantissa, exponent⟩, -, htext⟩ := h
    obtain rfl := Option.some.inj htext
    have hunits : ∀ u ∈ sizeUnits, Shown u.toList := by decide
    simp only [String.toList_append, shown_append]
    refine ⟨⟨⟨⟨shown_grouped _, by decide⟩, ?_⟩, by decide⟩, hunits unit (mem_of_unitOf hunit)⟩
    intro c hc
    rw [Nat.toString_eq_repr, Nat.toList_repr] at hc
    exact isShown_of_isDigit (Number.isDigit_of_mem_toDigits hc)

/-! ### Packages -/

namespace Package

/-- What the table says of the size of a package. -/
def sizeCell (p : Package) : String := (TableRow.sizeOf p).toOption.getD ""

/-- What the table says of a package, column by column. -/
def cells (p : Package) : List String :=
  [p.name, p.version, p.build.getD "", p.sizeCell, p.kind.word,
    p.source.getD "" ++ if p.isEditable then editableMark else ""]

/-- No text of a package controls the terminal or ends a line, and its size has a text. -/
structure IsShown (p : Package) : Prop where
  name : Shown p.name.toList
  version : Shown p.version.toList
  build : Shown (p.build.getD "").toList
  source : Shown (p.source.getD "").toList
  size : ∃ text, TableRow.sizeOf p = .ok text

/-- Every text of a package is shown as it is, and its size has a text. -/
structure IsPlain (p : Package) : Prop where
  name : Shown p.name.toList
  version : Shown p.version.toList
  build : Shown (p.build.getD "").toList
  source : Shown (p.source.getD "").toList
  version_unmarked : Markup.Unmarked p.version.toList
  build_unmarked : Markup.Unmarked (p.build.getD "").toList
  size : ∃ text, TableRow.sizeOf p = .ok text

theorem IsPlain.isShown {p : Package} (h : p.IsPlain) : p.IsShown :=
  ⟨h.name, h.version, h.build, h.source, h.size⟩

/-- What the table says of a package with these texts for version and build. -/
def cellsWith (p : Package) (version build : String) : List String :=
  [p.name, version, build, p.sizeCell, p.kind.word,
    p.source.getD "" ++ if p.isEditable then editableMark else ""]

/-- The cells of a package: its version and its build are shown as marked-up texts, the rest as it
is. -/
def ShownAs (p : Package) (row : List String) : Prop :=
  ∃ version build, Markup.plainText? p.version = some version ∧
    Markup.plainText? (p.build.getD "") = some build ∧
    row = p.cellsWith (dropControls version) (dropControls build)

/-- The row of a package in the table. -/
def row (style : TableStyle) (p : Package) : TableRow :=
  ⟨StyledText.plain p.name (TableRow.nameStyle style p), p.version, p.build.getD "", p.sizeCell,
    StyledText.plain p.kind.word (style.kind p.kind), TableRow.sourceOf style p⟩

theorem shown_kind (p : Package) : Shown p.kind.word.toList := by
  cases p.kind <;> decide

namespace IsShown

variable {p : Package} (h : p.IsShown)

include h

theorem sizeOf_eq : TableRow.sizeOf p = .ok p.sizeCell := by
  obtain ⟨text, hsize⟩ := h.size
  rw [sizeCell, hsize]
  rfl

theorem ofPackage_eq (style : TableStyle) : TableRow.ofPackage style p = .ok (p.row style) := by
  rw [TableRow.ofPackage, h.sizeOf_eq]
  rfl

theorem text_sourceOf (style : TableStyle) : (TableRow.sourceOf style p).text =
    p.source.getD "" ++ if p.isEditable then editableMark else "" := by
  have hmark : dropControls editableMark = editableMark := dropControls_of_shown (by decide)
  unfold TableRow.sourceOf
  by_cases hedit : p.isEditable = true
  · simp only [hedit, if_true, StyledText.append, StyledText.plain, hmark,
      dropControls_of_shown h.source]
  · simp only [hedit, if_false, StyledText.plain, dropControls_of_shown h.source,
      Bool.false_eq_true, String.append_empty]

/-- What the row of a package shows, given what its version and its build show. -/
theorem cells_row (style : TableStyle) (version build : Markup.Rendered) :
    (p.row style).cells version build = p.cellsWith (dropControls (String.ofList version.text))
      (dropControls (String.ofList build.text)) := by
  simp only [TableRow.cells, row, cellsWith, StyledText.plain, dropControls_of_shown h.name,
    dropControls_of_shown p.shown_kind, h.text_sourceOf style]

theorem shown_sizeCell : Shown p.sizeCell.toList := by
  have hsize := h.sizeOf_eq
  unfold TableRow.sizeOf at hsize
  split at hsize
  · rw [← Except.ok.inj hsize]
    decide
  split at hsize
  · cases hsize
  split at hsize
  · rename_i text htext
    rw [← Except.ok.inj hsize]
    exact shown_sizeText htext
  · cases hsize

theorem shown_cells : ∀ s ∈ p.cells, Shown s.toList := by
  have hmark : Shown (if p.isEditable then editableMark else "").toList := by split <;> decide
  have hsource : Shown (p.source.getD "" ++
      if p.isEditable then editableMark else "").toList := by
    rw [String.toList_append, shown_append]
    exact ⟨h.source, hmark⟩
  simp only [cells, List.forall_mem_cons, List.not_mem_nil, false_imp_iff, implies_true, and_true]
  exact ⟨h.name, h.version, h.build, h.shown_sizeCell, p.shown_kind, hsource⟩

end IsShown

/-- Version and build have no tags, escapes and names of emoji. -/
structure IsLiteral (p : Package) : Prop where
  version : Markup.IsLiteral p.version.toList
  build : Markup.IsLiteral (p.build.getD "").toList

theorem IsShown.shownAs_cells {p : Package} (h : p.IsShown) (hliteral : p.IsLiteral) :
    p.ShownAs p.cells := by
  refine ⟨_, _, hliteral.version.plainText?_eq, hliteral.build.plainText?_eq, ?_⟩
  rw [dropControls_of_shown h.version, dropControls_of_shown h.build]
  rfl

/-- A plain package is shown as it is. -/
theorem IsPlain.shownAs_cells {p : Package} (h : p.IsPlain) : p.ShownAs p.cells :=
  h.isShown.shownAs_cells ⟨h.version_unmarked.isLiteral, h.build_unmarked.isLiteral⟩

end Package

/-! ### The table -/

/-- Styles that can be looked up, that of the headers among the known ones. -/
structure TableStyle.IsUsable (style : TableStyle) : Prop where
  header : Style.isStyle style.header = true
  kind : ∀ k, Style.breaks (style.kind k) = false
  explicit : ∀ k, Style.breaks ("bold " ++ style.kind k) = false
  editable : Style.breaks style.editable = false

/-- The table of packages has their rows. -/
theorem ofPackages_of_shown {ps : List Package} (h : ∀ p ∈ ps, p.IsShown) (style : TableStyle) :
    PackageTable.ofPackages style ps = .ok ⟨style.header, ps.map (Package.row style)⟩ := by
  have hrows : ps.mapM (TableRow.ofPackage style) = .ok (ps.map (Package.row style)) := by
    rw [Outcome.mapM_eq_ok_iff, List.forall₂_map_right_iff, List.forall₂_same]
    exact fun p hp => (h p hp).ofPackage_eq style
  rw [PackageTable.ofPackages, hrows]
  rfl

/-- No style that a row asks for by itself breaks down. -/
theorem TableStyle.IsUsable.styles_row {style : TableStyle} (h : style.IsUsable) (p : Package) :
    Markup.LooksUp (p.row style).styles := by
  have hplain : Style.breaks "" = false := by simp [Style.breaks, Style.read]
  have hname : Style.breaks (TableRow.nameStyle style p) = false := by
    unfold TableRow.nameStyle
    split
    · exact h.explicit p.kind
    · exact hplain
  have hsource : Markup.LooksUp (TableRow.sourceOf style p).styles := by
    have hown : Markup.LooksUp (StyledText.plain (p.source.getD "") "").styles :=
      List.forall_mem_singleton.mpr hplain
    unfold TableRow.sourceOf
    split
    · unfold StyledText.append StyledText.styles StyledText.plain
      split
      · exact hown
      · exact List.forall_mem_cons.mpr ⟨hplain, List.forall_mem_singleton.mpr h.editable⟩
    · exact hown
  rw [TableRow.styles, Markup.looksUp_append, Markup.looksUp_append]
  exact ⟨⟨List.forall_mem_singleton.mpr hname, List.forall_mem_singleton.mpr (h.kind p.kind)⟩,
    hsource⟩

/-- Rows as their packages are shown, and what their versions and builds show. -/
theorem forall₂_shownAs_iff {ps : List Package} (h : ∀ p ∈ ps, p.IsShown) (style : TableStyle)
    {rows : List (List String)} : List.Forall₂ Package.ShownAs ps rows ↔
      ∃ versions builds, List.Forall₂ (fun p r => Markup.render p.version = .ok r) ps versions ∧
        List.Forall₂ (fun p r => Markup.render (p.build.getD "") = .ok r) ps builds ∧
        (∀ r ∈ versions, Markup.LooksUp r.styles) ∧
        (∀ r ∈ builds, Markup.LooksUp r.styles) ∧
        rows = List.zipWith (fun r (shown : Markup.Rendered × Markup.Rendered) =>
          r.cells shown.1 shown.2) (ps.map (Package.row style)) (versions.zip builds) := by
  constructor
  · intro hrows
    induction hrows with
    | nil => exact ⟨[], [], .nil, .nil, by simp, by simp, rfl⟩
    | @cons p row ps rows hp _ ih =>
      obtain ⟨hshown, hrest⟩ := List.forall_mem_cons.mp h
      obtain ⟨version, build, hversion, hbuild, rfl⟩ := hp
      obtain ⟨v, hv, hvstyles, rfl⟩ := Markup.plainText?_eq_some_iff.mp hversion
      obtain ⟨b, hb, hbstyles, rfl⟩ := Markup.plainText?_eq_some_iff.mp hbuild
      obtain ⟨versions, builds, hvs, hbs, hvsstyles, hbsstyles, rfl⟩ := ih hrest
      refine ⟨v :: versions, b :: builds, .cons hv hvs, .cons hb hbs,
        List.forall_mem_cons.mpr ⟨hvstyles, hvsstyles⟩,
        List.forall_mem_cons.mpr ⟨hbstyles, hbsstyles⟩, ?_⟩
      rw [← hshown.cells_row style v b]
      rfl
  · rintro ⟨versions, builds, hvs, hbs, hvstyles, hbstyles, rfl⟩
    induction hvs generalizing builds with
    | nil => exact .nil
    | cons hv _ ih =>
      cases hbs with
      | cons hb hbs =>
        obtain ⟨hshown, hrest⟩ := List.forall_mem_cons.mp h
        obtain ⟨hvstyle, hvstyles⟩ := List.forall_mem_cons.mp hvstyles
        obtain ⟨hbstyle, hbstyles⟩ := List.forall_mem_cons.mp hbstyles
        refine .cons ⟨_, _, Markup.plainText?_eq_some_iff.mpr ⟨_, hv, hvstyle, rfl⟩,
          Markup.plainText?_eq_some_iff.mpr ⟨_, hb, hbstyle, rfl⟩, hshown.cells_row style _ _⟩
          (ih hrest _ hbs hvstyles hbstyles)

namespace Markup

/-- Why a text cannot be shown. -/
def fault? (s : String) : Option Fault :=
  match render s with
  | .error f => some f
  | .ok _ => none

theorem mapM_render_eq_error_iff {texts : List String} {f : Fault} :
    texts.mapM render = .error f ↔ texts.findSome? fault? = some f := by
  induction texts with
  | nil => simp [pure, Except.pure]
  | cons s texts ih =>
    rw [List.mapM_cons, List.findSome?_cons, Outcome.bind_eq_error_iff, fault?]
    cases render s with
    | error f' => simp
    | ok r =>
      simp only [reduceCtorEq, Except.ok.injEq, false_or, exists_eq_left', ← ih]
      cases texts.mapM render <;> simp [pure, Except.pure]

theorem findSome?_fault?_of_mapM {texts : List String} {rs : List Rendered}
    (h : texts.mapM render = .ok rs) : texts.findSome? fault? = none := by
  rw [Option.eq_none_iff_forall_ne_some]
  intro f hf
  rw [mapM_render_eq_error_iff.mpr hf] at h
  cases h

end Markup

/-- The fault of the first text that cannot be shown: versions come first, then builds. -/
def firstFault (ps : List Package) : Option Markup.Fault :=
  (ps.map Package.version ++ ps.map fun p => p.build.getD "").findSome? Markup.fault?

section Cells

variable {style : TableStyle} (hstyle : style.IsUsable) {ps : List Package}
  (h : ∀ p ∈ ps, p.IsShown) (header : String)

include hstyle

/-- The styles of the table are looked up without a breakdown if those of the marked-up texts
are. -/
theorem looksUp_styles_iff (ps : List Package) {versions builds : List Markup.Rendered} :
    Markup.LooksUp ((ps.map (Package.row style)).flatMap TableRow.styles ++
      (versions ++ builds).flatMap Markup.Rendered.styles) ↔
    (∀ r ∈ versions, Markup.LooksUp r.styles) ∧ ∀ r ∈ builds, Markup.LooksUp r.styles := by
  have hrows : Markup.LooksUp ((ps.map (Package.row style)).flatMap TableRow.styles) := by
    intro s hs
    obtain ⟨row, hrow, hs⟩ := List.mem_flatMap.mp hs
    obtain ⟨p, -, rfl⟩ := List.mem_map.mp hrow
    exact hstyle.styles_row p s hs
  rw [Markup.looksUp_append, List.flatMap_append, Markup.looksUp_append, and_iff_right hrows]
  simp only [Markup.LooksUp, List.forall_mem_flatMap]

include h

/-- What the rows of packages show. -/
theorem cells_rows_eq_ok_iff {cells : List (List String)} :
    (⟨header, ps.map (Package.row style)⟩ : PackageTable).cells = .ok cells ↔
      ∃ rows, List.Forall₂ Package.ShownAs ps rows ∧ cells = columnHeaders :: rows := by
  simp only [PackageTable.cells, Outcome.bind_eq_ok_iff, Outcome.mapError_eq_ok_iff,
    Outcome.mapM_eq_ok_iff, List.map_map, List.forall₂_map_left_iff, forall₂_shownAs_iff h style]
  constructor
  · rintro ⟨versions, hvs, builds, hbs, hcells⟩
    split at hcells
    · cases hcells
    · next hnone =>
      obtain ⟨hvstyles, hbstyles⟩ := (looksUp_styles_iff hstyle ps).mp <|
        Markup.any_breaks_eq_false_iff.mp (Bool.eq_false_iff.mpr hnone)
      exact ⟨_, ⟨versions, builds, hvs, hbs, hvstyles, hbstyles, rfl⟩, (Except.ok.inj hcells).symm⟩
  · rintro ⟨_, ⟨versions, builds, hvs, hbs, hvstyles, hbstyles, rfl⟩, rfl⟩
    have hstyles := Markup.any_breaks_eq_false_iff.mpr
      ((looksUp_styles_iff hstyle ps).mpr ⟨hvstyles, hbstyles⟩)
    refine ⟨versions, hvs, builds, hbs, ?_⟩
    rw [if_neg (Bool.eq_false_iff.mp hstyles)]

/-- Why there are no cells, if a package cannot be shown. -/
theorem cells_rows_eq_error (hnone : ∀ rows, ¬ List.Forall₂ Package.ShownAs ps rows) :
    (⟨header, ps.map (Package.row style)⟩ : PackageTable).cells =
      .error (.breakdown (((firstFault ps).map Markup.Fault.breakdown).getD .outOfRange)) := by
  cases hcells : (⟨header, ps.map (Package.row style)⟩ : PackageTable).cells with
  | ok cells =>
    obtain ⟨rows, hrows, -⟩ := (cells_rows_eq_ok_iff hstyle h header).mp hcells
    exact absurd hrows (hnone rows)
  | error e =>
    unfold PackageTable.cells at hcells
    simp only [List.map_map] at hcells
    change ((ps.map Package.version).mapM Markup.render).mapError _ >>= _ = _ at hcells
    rw [firstFault, List.findSome?_append]
    cases hversions : (ps.map Package.version).mapM Markup.render with
    | error f =>
      rw [hversions] at hcells
      rw [Markup.mapM_render_eq_error_iff.mp hversions]
      exact hcells.symm
    | ok versions =>
      rw [hversions] at hcells
      rw [Markup.findSome?_fault?_of_mapM hversions, Option.none_or]
      change ((ps.map fun p => p.build.getD "").mapM Markup.render).mapError _ >>= _ = _ at hcells
      cases hbuilds : (ps.map fun p => p.build.getD "").mapM Markup.render with
      | error f =>
        rw [hbuilds] at hcells
        rw [Markup.mapM_render_eq_error_iff.mp hbuilds]
        exact hcells.symm
      | ok builds =>
        rw [hbuilds] at hcells
        rw [Markup.findSome?_fault?_of_mapM hbuilds]
        change (if _ then _ else _) = _ at hcells
        split at hcells
        · exact hcells.symm
        · cases hcells

end Cells

end PinLedger

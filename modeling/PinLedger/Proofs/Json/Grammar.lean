/-
# The grammar of JSON

What counts as a JSON document, character by character: a value is a word, a number, a text, a list
or an object, and blanks may stand around every value and name. No character of a text is a control
character, and quotes and backslashes are escaped. Values without doubles are written as documents,
in either layout.

Key definitions: `IsText`, `IsNumeral`, `IsValue`, `IsDocument`, `Json.Plain`.
Key theorems: `isText_quote`, `isNumeral_toString`, `isValue_chars`, `isDocument_write`.
-/
import Mathlib.Data.Bool.AllAny
import PinLedger.Json.Reader
import PinLedger.Proofs.Json.Numeral

namespace PinLedger.Json

/-! ### Documents -/

/-- Blanks between the parts of a document. -/
def IsGap (cs : List Char) : Prop := ∀ c ∈ cs, isGap c = true

/-- What stands for one character of a text, or for one half of a character. -/
inductive IsPart : List Char → Prop
  /-- A character stands for itself if it is no control character, quote or backslash. -/
  | itself {c : Char} (hcontrol : 0x20 ≤ c.toNat) (hquote : c ≠ '"') (hslash : c ≠ '\\') :
      IsPart [c]
  /-- A backslash and a letter or sign. -/
  | short {c : Char} (h : c ∈ ['"', '\\', '/', 'b', 'f', 'n', 'r', 't']) : IsPart ['\\', c]
  /-- A backslash, a `u` and four hexadecimal digits. -/
  | code {ds : List Char} (hlength : ds.length = 4)
      (h : ∀ d ∈ ds, d ∈ "0123456789abcdefABCDEF".toList) : IsPart ('\\' :: 'u' :: ds)

/-- A text between double quotes. -/
def IsText (cs : List Char) : Prop :=
  ∃ parts : List (List Char), (∀ p ∈ parts, IsPart p) ∧ cs = '"' :: parts.flatten ++ ['"']

/-- One digit or more. -/
def IsDigits (cs : List Char) : Prop := cs ≠ [] ∧ ∀ c ∈ cs, Number.isDigit c = true

/-- Digits without a zero in front of another one. -/
def IsWhole (cs : List Char) : Prop := IsDigits cs ∧ (cs.head? = some '0' → cs = ['0'])

/-- What may stand behind the whole part of a number: a point with digits, and an exponent. -/
def IsFraction (cs : List Char) : Prop := cs = [] ∨ ∃ ds, cs = '.' :: ds ∧ IsDigits ds

/-- An exponent, or nothing. -/
def IsExponent (cs : List Char) : Prop :=
  cs = [] ∨ ∃ e sign ds, cs = e :: sign ++ ds ∧ (e = 'e' ∨ e = 'E') ∧
    (sign = [] ∨ sign = ['+'] ∨ sign = ['-']) ∧ IsDigits ds

/-- A number. -/
def IsNumeral (cs : List Char) : Prop :=
  ∃ sign whole fraction exponent, cs = sign ++ whole ++ fraction ++ exponent ∧
    (sign = [] ∨ sign = ['-']) ∧ IsWhole whole ∧ IsFraction fraction ∧ IsExponent exponent

mutual

/-- A value. -/
inductive IsValue : List Char → Prop
  | null : IsValue "null".toList
  | bool (b : Bool) : IsValue (if b then "true" else "false").toList
  | number {cs : List Char} (h : IsNumeral cs) : IsValue cs
  | text {cs : List Char} (h : IsText cs) : IsValue cs
  | noItems {gap : List Char} (h : IsGap gap) : IsValue ('[' :: gap ++ [']'])
  | list {cs : List Char} (h : IsItems cs) : IsValue ('[' :: cs ++ [']'])
  | noFields {gap : List Char} (h : IsGap gap) : IsValue ('\x7b' :: gap ++ ['\x7d'])
  | object {cs : List Char} (h : IsFields cs) : IsValue ('\x7b' :: cs ++ ['\x7d'])

/-- Values with commas between them. -/
inductive IsItems : List Char → Prop
  | last {before cs after : List Char} (hbefore : IsGap before) (h : IsValue cs)
      (hafter : IsGap after) : IsItems (before ++ cs ++ after)
  | more {before cs after rest : List Char} (hbefore : IsGap before) (h : IsValue cs)
      (hafter : IsGap after) (hrest : IsItems rest) :
      IsItems (before ++ cs ++ after ++ ',' :: rest)

/-- Names with values, and commas between them. -/
inductive IsFields : List Char → Prop
  | last {cs : List Char} (h : IsField cs) : IsFields cs
  | more {cs rest : List Char} (h : IsField cs) (hrest : IsFields rest) :
      IsFields (cs ++ ',' :: rest)

/-- A name with a value. -/
inductive IsField : List Char → Prop
  | mk {before name between gap cs after : List Char} (hbefore : IsGap before)
      (hname : IsText name) (hbetween : IsGap between) (hgap : IsGap gap) (h : IsValue cs)
      (hafter : IsGap after) :
      IsField (before ++ name ++ between ++ ':' :: (gap ++ cs ++ after))

end

/-- A document: one value, with blanks around it. -/
def IsDocument (cs : List Char) : Prop :=
  ∃ before value after, cs = before ++ value ++ after ∧ IsGap before ∧ IsValue value ∧ IsGap after

/-! ### Plain values -/

/-- A value without doubles, in whose objects no name comes twice. -/
inductive Plain : Json → Prop
  | null : Plain .null
  | bool (b : Bool) : Plain (.bool b)
  | int (i : Int) : Plain (.int i)
  | text (s : String) : Plain (.text s)
  | list {items : List Json} (h : ∀ j ∈ items, Plain j) : Plain (.list items)
  | object {fields : List (String × Json)} (hnames : (fields.map (·.1)).Nodup)
      (h : ∀ f ∈ fields, Plain f.2) : Plain (.object fields)

/-! ### Texts and numbers -/

theorem isGap_nil : IsGap [] := fun _ hc => absurd hc List.not_mem_nil

/-- The code of a control character has four digits. -/
theorem hex_digits : ∀ n < 0x20, (Text.hex 4 n).length = 4 ∧
    (Text.hex 4 n).mapM Number.digit? = some [0, 0, n / 16, n % 16] ∧
    ∀ d ∈ Text.hex 4 n, d ∈ "0123456789abcdefABCDEF".toList := by
  have hall : ∀ n < 0x20, (Text.hex 4 n).length = 4 ∧
      (Text.hex 4 n).mapM Number.digit? = some [0, 0, n / 16, n % 16] ∧
      (Text.hex 4 n).all (fun d => d ∈ "0123456789abcdefABCDEF".toList) = true := by decide
  intro n hn
  obtain ⟨hlength, hvalues, hdigits⟩ := hall n hn
  exact ⟨hlength, hvalues, List.all_iff_forall_prop.mp hdigits⟩

/-- What a character is written as, in the order of the writer's tests. -/
theorem escape_cases (c : Char) :
    (∃ e, e ∈ ['"', '\\', 'n', 'r', 't', 'b', 'f'] ∧ simpleEscape? e = some c ∧
      escape c = ['\\', e]) ∨
    (c.toNat < 0x20 ∧ escape c = '\\' :: 'u' :: Text.hex 4 c.toNat) ∨
    (0x20 ≤ c.toNat ∧ c ≠ '"' ∧ c ≠ '\\' ∧ escape c = [c]) := by
  unfold escape
  split
  · next h => exact .inl ⟨'"', by decide, by rw [h]; rfl, rfl⟩
  split
  · next h => exact .inl ⟨'\\', by decide, by rw [h]; rfl, rfl⟩
  split
  · next h => exact .inl ⟨'n', by decide, by rw [h]; rfl, rfl⟩
  split
  · next h => exact .inl ⟨'r', by decide, by rw [h]; rfl, rfl⟩
  split
  · next h => exact .inl ⟨'t', by decide, by rw [h]; rfl, rfl⟩
  split
  · next h => exact .inl ⟨'b', by decide, by rw [h]; rfl, rfl⟩
  split
  · next h => exact .inl ⟨'f', by decide, by rw [h]; rfl, rfl⟩
  split
  · next h => exact .inr (.inl ⟨h, rfl⟩)
  · next hquote hslash _ _ _ _ _ hcontrol =>
    exact .inr (.inr ⟨by omega, hquote, hslash, rfl⟩)

theorem isPart_escape (c : Char) : IsPart (escape c) := by
  rcases escape_cases c with ⟨e, he, -, hescape⟩ | ⟨hcontrol, hescape⟩ |
    ⟨hcontrol, hquote, hslash, hescape⟩
  · have hmem : ∀ x ∈ ['"', '\\', 'n', 'r', 't', 'b', 'f'],
        x ∈ ['"', '\\', '/', 'b', 'f', 'n', 'r', 't'] :=
      List.all_iff_forall_prop.mp (by decide)
    rw [hescape]
    exact .short (hmem e he)
  · obtain ⟨hlength, -, hdigits⟩ := hex_digits c.toNat hcontrol
    rw [hescape]
    exact .code hlength hdigits
  · rw [hescape]
    exact .itself hcontrol hquote hslash

theorem isText_quote (s : String) : IsText (quote s) := by
  refine ⟨s.toList.map escape, fun p hp => ?_, ?_⟩
  · obtain ⟨c, -, rfl⟩ := List.mem_map.mp hp
    exact isPart_escape c
  · rw [← List.flatMap_def]
    rfl

theorem isWhole_toDigits (n : Nat) : IsWhole (Nat.toDigits 10 n) := by
  refine ⟨⟨Nat.toDigits_ne_nil, fun c hc => Number.isDigit_of_mem_toDigits hc⟩, fun hzero => ?_⟩
  by_cases hn : n = 0
  · rw [hn]
    rfl
  · exact absurd hzero (Number.head?_toDigits_ne_zero hn)

theorem isNumeral_toString (i : Int) : IsNumeral (toString i).toList := by
  rw [Number.toList_toString]
  refine ⟨if i < 0 then ['-'] else [], Nat.toDigits 10 i.natAbs, [], [], by simp, ?_,
    isWhole_toDigits _, .inl rfl, .inl rfl⟩
  by_cases hi : i < 0
  · exact .inr (if_pos hi)
  · exact .inl (if_neg hi)

/-! ### Values -/

theorem isGap_lead (l : Layout) (depth : Nat) : IsGap (l.lead depth) := by
  cases l with
  | compact => exact isGap_nil
  | indented =>
    intro c hc
    rcases List.mem_cons.mp hc with rfl | hc
    · rfl
    · rw [List.eq_of_mem_replicate hc]
      rfl

theorem exists_colon (l : Layout) : ∃ gap, IsGap gap ∧ l.colon = ':' :: gap := by
  cases l with
  | compact => exact ⟨[], isGap_nil, rfl⟩
  | indented => exact ⟨[' '], by simp [IsGap, isGap], rfl⟩

/-- Behind the first item, an item is written as a first one behind a comma. -/
theorem itemChars_false (l : Layout) (depth : Nat) (j : Json) (js : List Json) :
    itemChars l depth false (j :: js) = ',' :: itemChars l depth true (j :: js) := by
  simp [itemChars]

theorem fieldChars_false (l : Layout) (depth : Nat) (f : String × Json)
    (fs : List (String × Json)) :
    fieldChars l depth false (f :: fs) = ',' :: fieldChars l depth true (f :: fs) := by
  simp [fieldChars]

theorem isItems_itemChars (l : Layout) (depth : Nat) {after : List Char} (hafter : IsGap after)
    (j : Json) (js : List Json) (h : ∀ x ∈ j :: js, IsValue (chars l depth x)) :
    IsItems (itemChars l depth true (j :: js) ++ after) := by
  induction js generalizing j with
  | nil =>
    have hlast := IsItems.last (isGap_lead l depth) (h j (List.mem_cons_self ..)) hafter
    simpa [itemChars] using hlast
  | cons k js ih =>
    have hrest := ih k fun x hx => h x (List.mem_cons_of_mem _ hx)
    have hmore := IsItems.more (isGap_lead l depth) (h j (List.mem_cons_self ..)) isGap_nil hrest
    rw [itemChars, itemChars_false]
    simpa using hmore

theorem isField_fieldChars (l : Layout) (depth : Nat) {after : List Char} (hafter : IsGap after)
    {f : String × Json} (h : IsValue (chars l depth f.2)) :
    IsField (l.lead depth ++ quote f.1 ++ l.colon ++ chars l depth f.2 ++ after) := by
  obtain ⟨gap, hgap, hcolon⟩ := exists_colon l
  have hfield := IsField.mk (isGap_lead l depth) (isText_quote f.1) isGap_nil hgap h hafter
  rw [hcolon]
  simpa using hfield

theorem isFields_fieldChars (l : Layout) (depth : Nat) {after : List Char} (hafter : IsGap after)
    (f : String × Json) (fs : List (String × Json))
    (h : ∀ x ∈ f :: fs, IsValue (chars l depth x.2)) :
    IsFields (fieldChars l depth true (f :: fs) ++ after) := by
  induction fs generalizing f with
  | nil =>
    have hlast := isField_fieldChars l depth hafter (h f (List.mem_cons_self ..))
    simpa [fieldChars] using IsFields.last hlast
  | cons g fs ih =>
    have hrest := ih g fun x hx => h x (List.mem_cons_of_mem _ hx)
    have hfirst := isField_fieldChars l depth isGap_nil (h f (List.mem_cons_self ..))
    have hmore := IsFields.more hfirst hrest
    rw [fieldChars, fieldChars_false]
    simpa using hmore

/-- Plain values are written as values. -/
theorem isValue_chars (l : Layout) {j : Json} (h : Plain j) (depth : Nat) :
    IsValue (chars l depth j) := by
  induction h generalizing depth with
  | null => exact .null
  | bool b => exact .bool b
  | int i => exact .number (isNumeral_toString i)
  | text s => exact .text (isText_quote s)
  | @list items _ ih =>
    cases items with
    | nil => exact .noItems isGap_nil
    | cons j js =>
      have hitems := isItems_itemChars l (depth + 1) (isGap_lead l depth) j js
        fun x hx => ih x hx (depth + 1)
      simpa [chars] using IsValue.list hitems
  | @object fields _ _ ih =>
    cases fields with
    | nil => exact .noFields isGap_nil
    | cons f fs =>
      have hfields := isFields_fieldChars l (depth + 1) (isGap_lead l depth) f fs
        fun x hx => ih x hx (depth + 1)
      simpa [chars] using IsValue.object hfields

theorem isDocument_write (l : Layout) {j : Json} (h : Plain j) :
    IsDocument (write l j).toList := by
  refine ⟨[], chars l 0 j, [], ?_, isGap_nil, isValue_chars l h 0, isGap_nil⟩
  simp [write]

end PinLedger.Json

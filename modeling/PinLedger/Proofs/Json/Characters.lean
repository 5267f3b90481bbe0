/-
# Which characters stand in a JSON text

The writer escapes what must not stand in a text, and nothing else. So no control character stands
in a compact text, and the characters beyond ASCII of a text are those of the texts and names that
are written, in their order.

Key definitions: `isWide`.
Key theorems: `not_control_of_mem_chars`, `filter_wide_quote`, `filter_wide_list`,
`filter_wide_object`.
-/
import PinLedger.Proofs.Json.Grammar

namespace PinLedger.Json

/-! ### Control characters -/

/-- A numeral is made of digits and at most a minus. -/
theorem mem_toString {i : Int} {c : Char} (h : c ∈ (toString i).toList) :
    c = '-' ∨ Number.isDigit c = true := by
  rw [Number.toList_toString, List.mem_append] at h
  rcases h with h | h
  · split at h
    · exact .inl (List.mem_singleton.mp h)
    · exact absurd h List.not_mem_nil
  · exact .inr (Number.isDigit_of_mem_toDigits h)

theorem isDigit_range {c : Char} (h : Number.isDigit c = true) :
    0x30 ≤ c.toNat ∧ c.toNat ≤ 0x39 := by
  have hc : '0' ≤ c ∧ c ≤ '9' := by simpa [Number.isDigit] using h
  exact ⟨hc.1, hc.2⟩

/-- Hexadecimal digits and the letters of escapes are plain ASCII characters. -/
theorem escape_plain {c d : Char} (h : d ∈ escape c) :
    0x20 ≤ d.toNat ∧ (d = c ∨ d.toNat < 0x7F) := by
  rcases escape_cases c with ⟨e, he, -, hescape⟩ | ⟨hcontrol, hescape⟩ | ⟨hcontrol, -, -, hescape⟩
  · rw [hescape] at h
    have hall : ∀ x ∈ '\\' :: ['"', '\\', 'n', 'r', 't', 'b', 'f'],
        0x20 ≤ x.toNat ∧ x.toNat < 0x7F := List.all_iff_forall_prop.mp (by decide)
    have hmem : d ∈ '\\' :: ['"', '\\', 'n', 'r', 't', 'b', 'f'] := by
      rcases List.mem_cons.mp h with rfl | h
      · exact List.mem_cons_self ..
      · rw [List.mem_singleton.mp h]
        exact List.mem_cons_of_mem _ he
    exact ⟨(hall d hmem).1, .inr (hall d hmem).2⟩
  · rw [hescape] at h
    have hall : ∀ x ∈ '\\' :: 'u' :: "0123456789abcdefABCDEF".toList,
        0x20 ≤ x.toNat ∧ x.toNat < 0x7F := List.all_iff_forall_prop.mp (by decide)
    have hmem : d ∈ '\\' :: 'u' :: "0123456789abcdefABCDEF".toList := by
      obtain ⟨-, -, hdigits⟩ := hex_digits c.toNat hcontrol
      rcases List.mem_cons.mp h with rfl | h
      · exact List.mem_cons_self ..
      · rcases List.mem_cons.mp h with rfl | h
        · exact List.mem_cons_of_mem _ (List.mem_cons_self ..)
        · exact List.mem_cons_of_mem _ (List.mem_cons_of_mem _ (hdigits d h))
    exact ⟨(hall d hmem).1, .inr (hall d hmem).2⟩
  · rw [hescape] at h
    obtain rfl := List.mem_singleton.mp h
    exact ⟨hcontrol, .inl rfl⟩

theorem quote_plain {s : String} {d : Char} (h : d ∈ quote s) : 0x20 ≤ d.toNat := by
  rw [quote, List.cons_append, List.mem_cons, List.mem_append, List.mem_flatMap,
    List.mem_singleton] at h
  rcases h with rfl | ⟨c, -, hc⟩ | rfl
  · decide
  · exact (escape_plain hc).1
  · decide

/-- Every character of the items of a list stands in an item, or is a comma. -/
theorem mem_itemChars_compact {depth : Nat} {first : Bool} {js : List Json} {c : Char}
    (h : c ∈ itemChars .compact depth first js) :
    c = ',' ∨ ∃ j ∈ js, c ∈ chars .compact depth j := by
  induction js generalizing first with
  | nil => exact absurd h List.not_mem_nil
  | cons j js ih =>
    simp only [itemChars, Layout.lead, List.append_nil, List.mem_append] at h
    rcases h with (hcomma | hj) | hjs
    · cases first with
      | true => exact absurd hcomma List.not_mem_nil
      | false => exact .inl (List.mem_singleton.mp hcomma)
    · exact .inr ⟨j, List.mem_cons_self .., hj⟩
    · rcases ih hjs with hc | ⟨k, hk, hc⟩
      · exact .inl hc
      · exact .inr ⟨k, List.mem_cons_of_mem _ hk, hc⟩

/-- Every character of the fields of an object stands in a name or a value, or is a comma or a
colon. -/
theorem mem_fieldChars_compact {depth : Nat} {first : Bool} {fs : List (String × Json)} {c : Char}
    (h : c ∈ fieldChars .compact depth first fs) :
    c = ',' ∨ c = ':' ∨ ∃ f ∈ fs, c ∈ quote f.1 ∨ c ∈ chars .compact depth f.2 := by
  induction fs generalizing first with
  | nil => exact absurd h List.not_mem_nil
  | cons f fs ih =>
    simp only [fieldChars, Layout.lead, Layout.colon, List.append_nil, List.mem_append,
      List.mem_singleton] at h
    rcases h with (((hcomma | hname) | hcolon) | hvalue) | hfs
    · cases first with
      | true => exact absurd hcomma List.not_mem_nil
      | false => exact .inl (List.mem_singleton.mp hcomma)
    · exact .inr (.inr ⟨f, List.mem_cons_self .., .inl hname⟩)
    · exact .inr (.inl hcolon)
    · exact .inr (.inr ⟨f, List.mem_cons_self .., .inr hvalue⟩)
    · rcases ih hfs with hc | hc | ⟨g, hg, hc⟩
      · exact .inl hc
      · exact .inr (.inl hc)
      · exact .inr (.inr ⟨g, List.mem_cons_of_mem _ hg, hc⟩)

/-- No control character stands in the compact text of a plain value. -/
theorem not_control_of_mem_chars {j : Json} (h : Plain j) {depth : Nat} {c : Char}
    (hc : c ∈ chars .compact depth j) : 0x20 ≤ c.toNat := by
  induction h generalizing depth with
  | null =>
    have hall : ∀ x ∈ "null".toList, 0x20 ≤ x.toNat := List.all_iff_forall_prop.mp (by decide)
    exact hall c hc
  | bool b =>
    have hall : ∀ x ∈ (if b then "true" else "false").toList, 0x20 ≤ x.toNat :=
      List.all_iff_forall_prop.mp (by cases b <;> decide)
    exact hall c hc
  | int i =>
    rcases mem_toString hc with rfl | hdigit
    · decide
    · have hrange := isDigit_range hdigit
      omega
  | text s => exact quote_plain hc
  | @list items _ ih =>
    rw [chars] at hc
    split at hc
    · have hall : ∀ x ∈ ['[', ']'], 0x20 ≤ x.toNat := List.all_iff_forall_prop.mp (by decide)
      exact hall c hc
    · simp only [Layout.lead, List.append_nil, List.cons_append, List.mem_cons,
        List.mem_append, List.not_mem_nil, or_false] at hc
      rcases hc with rfl | hc | rfl
      · decide
      · rcases mem_itemChars_compact hc with rfl | ⟨j, hj, hc⟩
        · decide
        · exact ih j hj hc
      · decide
  | @object fields _ _ ih =>
    rw [chars] at hc
    split at hc
    · have hall : ∀ x ∈ ['\x7b', '\x7d'], 0x20 ≤ x.toNat :=
        List.all_iff_forall_prop.mp (by decide)
      exact hall c hc
    · simp only [Layout.lead, List.append_nil, List.cons_append, List.mem_cons,
        List.mem_append, List.not_mem_nil, or_false] at hc
      rcases hc with rfl | hc | rfl
      · decide
      · rcases mem_fieldChars_compact hc with rfl | rfl | ⟨f, hf, hname | hc⟩
        · decide
        · decide
        · exact quote_plain hname
        · exact ih f hf hc
      · decide

/-! ### Characters beyond ASCII -/

/-- A character beyond ASCII. -/
def isWide (c : Char) : Bool := decide (0x7F < c.toNat)

theorem filter_wide_eq_nil {cs : List Char} (h : ∀ c ∈ cs, c.toNat ≤ 0x7F) :
    cs.filter isWide = [] := by
  rw [List.filter_eq_nil_iff]
  intro c hc
  have hsmall := h c hc
  simp [isWide]
  omega

theorem filter_wide_escape (c : Char) : (escape c).filter isWide = [c].filter isWide := by
  by_cases hc : isWide c = true
  · have hwide : 0x7F < c.toNat := by simpa [isWide] using hc
    rcases escape_cases c with ⟨e, he, hsimple, -⟩ | ⟨hcontrol, -⟩ | ⟨-, -, -, hescape⟩
    · have hall : ∀ e ∈ ['"', '\\', 'n', 'r', 't', 'b', 'f'],
          (simpleEscape? e).all (fun x => x.toNat ≤ 0x7F) = true :=
        List.all_iff_forall_prop.mp (by decide)
      have hsmall := hall e he
      rw [hsimple, Option.all_some, decide_eq_true_eq] at hsmall
      omega
    · omega
    · rw [hescape]
  · rw [List.filter_cons_of_neg hc, List.filter_nil]
    refine filter_wide_eq_nil fun d hd => ?_
    have hsmall : c.toNat ≤ 0x7F := by simpa [isWide] using hc
    rcases (escape_plain hd).2 with rfl | h
    · exact hsmall
    · omega

theorem filter_wide_quote (s : String) : (quote s).filter isWide = s.toList.filter isWide := by
  have hinside : ∀ cs : List Char, (cs.flatMap escape).filter isWide = cs.filter isWide := by
    intro cs
    induction cs with
    | nil => rfl
    | cons c cs ih =>
      rw [List.flatMap_cons, List.filter_append, filter_wide_escape, ih, ← List.filter_append]
      rfl
  have hmark : ['"'].filter isWide = [] := by decide
  have hsplit : quote s = ['"'] ++ s.toList.flatMap escape ++ ['"'] := rfl
  rw [hsplit, List.filter_append, List.filter_append, hmark, hinside, List.nil_append,
    List.append_nil]

theorem filter_wide_toString (i : Int) : (toString i).toList.filter isWide = [] := by
  refine filter_wide_eq_nil fun c hc => ?_
  rcases mem_toString hc with rfl | hdigit
  · decide
  · have hrange := isDigit_range hdigit
    omega

theorem filter_wide_gap {gap : List Char} (h : IsGap gap) : gap.filter isWide = [] := by
  refine filter_wide_eq_nil fun c hc => ?_
  have hblank := h c hc
  simp only [isGap, Bool.or_eq_true, beq_iff_eq] at hblank
  rcases hblank with ((rfl | rfl) | rfl) | rfl <;> decide

theorem filter_wide_itemChars (l : Layout) (depth : Nat) (first : Bool) (js : List Json) :
    (itemChars l depth first js).filter isWide =
      js.flatMap fun j => (chars l depth j).filter isWide := by
  induction js generalizing first with
  | nil => rfl
  | cons j js ih =>
    have hcomma : (if first then [] else [',']).filter isWide = [] := by cases first <;> decide
    rw [itemChars, List.filter_append, List.filter_append, List.filter_append, hcomma,
      filter_wide_gap (isGap_lead l depth), ih]
    rfl

theorem filter_wide_fieldChars (l : Layout) (depth : Nat) (first : Bool)
    (fs : List (String × Json)) :
    (fieldChars l depth first fs).filter isWide =
      fs.flatMap fun f => f.1.toList.filter isWide ++ (chars l depth f.2).filter isWide := by
  induction fs generalizing first with
  | nil => rfl
  | cons f fs ih =>
    have hcomma : (if first then [] else [',']).filter isWide = [] := by cases first <;> decide
    have hcolon : l.colon.filter isWide = [] := by cases l <;> decide
    rw [fieldChars, List.filter_append, List.filter_append, List.filter_append,
      List.filter_append, List.filter_append, hcomma, filter_wide_gap (isGap_lead l depth), filter_wide_quote, hcolon,
      ih]
    simp

theorem filter_wide_list (l : Layout) (depth : Nat) (items : List Json) :
    (chars l depth (.list items)).filter isWide =
      items.flatMap fun j => (chars l (depth + 1) j).filter isWide := by
  have hopen : ['['].filter isWide = [] := by decide
  have hclose : [']'].filter isWide = [] := by decide
  cases items with
  | nil => rfl
  | cons j js =>
    have hchars : chars l depth (.list (j :: js)) =
        ['['] ++ itemChars l (depth + 1) true (j :: js) ++ l.lead depth ++ [']'] := by
      simp [chars]
    rw [hchars, List.filter_append, List.filter_append, List.filter_append, hopen, hclose,
      filter_wide_gap (isGap_lead l depth), filter_wide_itemChars]
    simp

theorem filter_wide_object (l : Layout) (depth : Nat) (fields : List (String × Json)) :
    (chars l depth (.object fields)).filter isWide = fields.flatMap fun f =>
      f.1.toList.filter isWide ++ (chars l (depth + 1) f.2).filter isWide := by
  have hopen : ['\x7b'].filter isWide = [] := by decide
  have hclose : ['\x7d'].filter isWide = [] := by decide
  cases fields with
  | nil => rfl
  | cons f fs =>
    have hchars : chars l depth (.object (f :: fs)) =
        ['\x7b'] ++ fieldChars l (depth + 1) true (f :: fs) ++ l.lead depth ++ ['\x7d'] := by
      simp [chars]
    rw [hchars, List.filter_append, List.filter_append, List.filter_append, hopen, hclose,
      filter_wide_gap (isGap_lead l depth), filter_wide_fieldChars]
    simp

end PinLedger.Json

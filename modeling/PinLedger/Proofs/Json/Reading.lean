/-
# Written values are read back

The reader takes from the front of a text what the writer has put there, and leaves the rest. The
induction is on plain values; what it needs of the rest is that a number does not go on in it. A
reading of an item or field costs one unit of fuel, and every item and field has a character of its
own, so the length of the text is fuel enough.

Key definitions: `Ends`, `ReadsBack`, `readMore`.
Key theorems: `readText_flatMap_escape`, `readNumber_toString`, `readsBack_of_plain`,
`parse?_write`.
-/
import PinLedger.Proofs.Json.Grammar

namespace PinLedger.Json

/-! ### Gaps -/

theorem skipGap_append {gap : List Char} (h : IsGap gap) (cs : List Char) :
    skipGap (gap ++ cs) = skipGap cs :=
  List.dropWhile_append_of_pos h

theorem skipGap_cons {c : Char} (h : isGap c = false) (cs : List Char) :
    skipGap (c :: cs) = c :: cs :=
  List.dropWhile_cons_of_neg (by simp [h])

/-! ### Texts -/

theorem readHex4_hex {n : Nat} (h : n < 0x20) (cs : List Char) :
    readHex4 (Text.hex 4 n ++ cs) = some (n, cs) := by
  obtain ⟨hlength, hvalues, -⟩ := hex_digits n h
  obtain ⟨a, b, c, d, hds⟩ : ∃ a b c d, Text.hex 4 n = [a, b, c, d] := by
    match hds : Text.hex 4 n, hlength with
    | [a, b, c, d], _ => exact ⟨a, b, c, d, rfl⟩
  have hsmall : [0, 0, n / 16, n % 16].all (· < 16) = true := by
    simp
    omega
  have hvalue : [0, 0, n / 16, n % 16].foldl (fun m x => m * 16 + x) 0 = n := by
    simp
    omega
  rw [hds] at hvalues ⊢
  simp only [List.cons_append, List.nil_append, readHex4, hvalues, Option.bind_eq_bind,
    Option.bind_some, hsmall, hvalue, if_true]

/-- The reader takes one character from what one character is written as. -/
theorem readText_escape (fuel : Nat) (acc : List Char) (c : Char) (cs : List Char) :
    readText (fuel + 1) acc (escape c ++ cs) = readText fuel (c :: acc) cs := by
  rcases escape_cases c with ⟨e, he, hsimple, hescape⟩ | ⟨hcontrol, hescape⟩ |
    ⟨hcontrol, hquote, hslash, hescape⟩
  · have hread : readEscape (e :: cs) = some (c, cs) := by
      have hu : e ≠ 'u' := by
        rintro rfl
        exact absurd he (by decide)
      unfold readEscape
      split
      · next heq => exact absurd (List.cons.inj heq).1 hu
      · next heq =>
        obtain ⟨rfl, rfl⟩ := List.cons.inj heq
        rw [hsimple]
        rfl
      · next heq => exact absurd heq (List.cons_ne_nil _ _)
    rw [hescape]
    simp [readText, hread]
  · have hhex := readHex4_hex hcontrol cs
    have hread : readEscape ('u' :: (Text.hex 4 c.toNat ++ cs)) = some (c, cs) := by
      simp only [readEscape, hhex, Option.bind_eq_bind, Option.bind_some]
      rw [if_neg (by omega), if_neg (by omega), Char.ofNat_toNat]
    rw [hescape]
    simp [readText, hread]
  · rw [hescape]
    simp [readText, show ¬ c.toNat < 0x20 by omega]

theorem length_escape_pos (c : Char) : 0 < (escape c).length := by
  rcases escape_cases c with ⟨e, -, -, hescape⟩ | ⟨-, hescape⟩ | ⟨-, -, -, hescape⟩
  · simp [hescape]
  · simp [hescape]
  · simp [hescape]

/-- The reader takes the inside of a text up to its closing quote. Every character is written with
one at least, so the length of what is written is fuel enough. -/
theorem readText_flatMap_escape (cs : List Char) {fuel : Nat}
    (hfuel : (cs.flatMap escape).length < fuel) (acc rest : List Char) :
    readText fuel acc (cs.flatMap escape ++ '"' :: rest) =
      some (String.ofList (acc.reverse ++ cs), rest) := by
  induction cs generalizing fuel acc with
  | nil =>
    cases fuel with
    | zero => exact absurd hfuel (Nat.not_lt_zero _)
    | succ fuel => simp [readText]
  | cons c cs ih =>
    have hpos := length_escape_pos c
    rw [List.flatMap_cons, List.length_append] at hfuel
    cases fuel with
    | zero => omega
    | succ fuel =>
      rw [List.flatMap_cons, List.append_assoc, readText_escape, ih (by omega)]
      simp

/-- A quoted text is read whole, the opening quote apart. -/
theorem readText_quote (s : String) (rest : List Char) :
    ∃ inside, quote s ++ rest = '"' :: inside ∧
      readText (inside.length + 1) [] inside = some (s, rest) := by
  have hlength : (s.toList.flatMap escape).length <
      (s.toList.flatMap escape ++ '"' :: rest).length + 1 := by
    rw [List.length_append]
    omega
  refine ⟨s.toList.flatMap escape ++ '"' :: rest, by simp [quote], ?_⟩
  rw [readText_flatMap_escape _ hlength]
  simp

/-! ### Numbers -/

/-- A number that stands before this does not go on in it. -/
def Ends (rest : List Char) : Prop :=
  ∀ c cs, rest = c :: cs → Number.isDigit c = false ∧ c ≠ '.' ∧ c ≠ 'e' ∧ c ≠ 'E'

theorem ends_nil : Ends [] := fun _ _ h => absurd h (List.cons_ne_nil _ _).symm

theorem ends_cons {c : Char} (h : Number.isDigit c = false ∧ c ≠ '.' ∧ c ≠ 'e' ∧ c ≠ 'E')
    (cs : List Char) : Ends (c :: cs) := by
  intro d ds heq
  obtain ⟨rfl, rfl⟩ := List.cons.inj heq
  exact h

theorem spanDigits_append {ds rest : List Char} (hds : ∀ c ∈ ds, Number.isDigit c = true)
    (hrest : Ends rest) : spanDigits (ds ++ rest) = (ds, rest) := by
  have htake : rest.takeWhile Number.isDigit = [] ∧ rest.dropWhile Number.isDigit = rest := by
    cases rest with
    | nil => exact ⟨rfl, rfl⟩
    | cons c cs =>
      obtain ⟨hdigit, -⟩ := hrest c cs rfl
      simp [hdigit]
  unfold spanDigits
  rw [List.takeWhile_append_of_pos hds, List.dropWhile_append_of_pos hds, htake.1, htake.2,
    List.append_nil]

theorem readWhole_toDigits (n : Nat) {rest : List Char} (hrest : Ends rest) :
    readWhole (Nat.toDigits 10 n ++ rest) = (Nat.toDigits 10 n, rest) := by
  have hspan := spanDigits_append (fun c hc => Number.isDigit_of_mem_toDigits (n := n) hc) hrest
  by_cases hn : n = 0
  · rw [hn]
    rfl
  · unfold readWhole
    split
    · next more heq =>
      -- Only zero has a zero in front.
      have hne : Nat.toDigits 10 n ≠ [] := Nat.toDigits_ne_nil
      have hhead : (Nat.toDigits 10 n ++ rest).head? = (Nat.toDigits 10 n).head? := by
        rw [List.head?_append, Option.or_of_isSome (List.isSome_head?.mpr hne)]
      rw [heq] at hhead
      exact absurd hhead.symm (Number.head?_toDigits_ne_zero hn)
    · exact hspan

/-- Nothing of what ends a number is taken for more of it. -/
theorem readFraction_of_ends {rest : List Char} (hrest : Ends rest) :
    readFraction rest = ([], rest) := by
  unfold readFraction
  split
  · next more => exact absurd rfl (hrest '.' more rfl).2.1
  · rfl

theorem readExponent_of_ends {rest : List Char} (hrest : Ends rest) :
    readExponent rest = (none, rest) := by
  cases rest with
  | nil => rfl
  | cons c cs =>
    obtain ⟨-, -, he, hE⟩ := hrest c cs rfl
    simp [readExponent, he, hE]

theorem readMinus_of_digit {d : Char} (h : Number.isDigit d = true) (cs : List Char) :
    readMinus (d :: cs) = (false, d :: cs) := by
  unfold readMinus
  split
  · next more heq =>
    obtain ⟨rfl, -⟩ := List.cons.inj heq
    exact absurd h (by decide)
  · rfl

theorem readMinus_toString (i : Int) (rest : List Char) :
    readMinus ((toString i).toList ++ rest) =
      (decide (i < 0), Nat.toDigits 10 i.natAbs ++ rest) := by
  rw [Number.toList_toString]
  by_cases hi : i < 0
  · simp [hi, readMinus]
  · obtain ⟨d, ds, hds, hd⟩ := Number.exists_toDigits_eq_cons i.natAbs
    rw [if_neg hi, hds, decide_eq_false hi]
    exact readMinus_of_digit hd _

/-- A whole number is read back. -/
theorem readNumber_toString (i : Int) {rest : List Char} (hrest : Ends rest) :
    readNumber ((toString i).toList ++ rest) = some (.int i, rest) := by
  have hwhole := readWhole_toDigits i.natAbs hrest
  have hsome : (Nat.toDigits 10 i.natAbs).isEmpty = false := by simp [Nat.toDigits_ne_nil]
  have hvalue : (if decide (i < 0) then -(i.natAbs : Int) else (i.natAbs : Int)) = i := by
    by_cases hi : i < 0
    · rw [if_pos (decide_eq_true hi)]
      omega
    · rw [if_neg (by simpa using hi)]
      omega
  unfold readNumber
  simp only [readMinus_toString, hwhole, hsome, readFraction_of_ends hrest,
    readExponent_of_ends hrest, Number.ofDigits_toDigits, hvalue]
  rfl

/-! ### Values -/

/-- What is written of a value is read back, and what stands behind it is left. -/
def ReadsBack (l : Layout) (j : Json) : Prop :=
  ∀ depth fuel gap rest, IsGap gap → Ends rest → (chars l depth j).length ≤ fuel →
    readValue fuel (gap ++ chars l depth j ++ rest) = some (j, rest)

theorem readWord_append (word : String) (j : Json) (rest : List Char) :
    readWord word j (word.toList ++ rest) = some (j, rest) := by
  have hprefix : word.toList.isPrefixOf (word.toList ++ rest) = true :=
    List.isPrefixOf_iff_prefix.mpr (List.prefix_append _ _)
  unfold readWord
  rw [if_pos hprefix, ← String.length_toList, List.drop_left]

/-- Blanks before a value are passed over. -/
theorem readValue_gap {gap : List Char} (h : IsGap gap) (fuel : Nat) (cs : List Char) :
    readValue fuel (gap ++ cs) = readValue fuel cs := by
  cases fuel with
  | zero => simp only [readValue]
  | succ fuel =>
    unfold readValue
    rw [skipGap_append h]

theorem not_isGap_of_isDigit {d : Char} (h : Number.isDigit d = true) : isGap d = false := by
  refine Bool.eq_false_iff.mpr fun hd => ?_
  simp only [isGap, Bool.or_eq_true, beq_iff_eq] at hd
  rcases hd with ((rfl | rfl) | rfl) | rfl <;> exact absurd h (by decide)

/-- A value that starts with a digit is a number. -/
theorem readValue_of_digit {d : Char} (h : Number.isDigit d = true) (fuel : Nat) (cs : List Char) :
    readValue (fuel + 1) (d :: cs) = readNumber (d :: cs) := by
  unfold readValue
  rw [skipGap_cons (not_isGap_of_isDigit h)]
  split
  case h_10 => rfl
  all_goals
    next heq =>
    obtain ⟨rfl, -⟩ := List.cons.inj heq
    exact absurd h (by decide)

/-- A minus before a digit starts a number, too. -/
theorem readValue_of_minus {d : Char} (h : Number.isDigit d = true) (fuel : Nat) (cs : List Char) :
    readValue (fuel + 1) ('-' :: d :: cs) = readNumber ('-' :: d :: cs) := by
  have hd : d ≠ 'I' := by
    rintro rfl
    exact absurd h (by decide)
  unfold readValue
  rw [skipGap_cons (by rfl)]
  simp [hd]

theorem readValue_toString (i : Int) (fuel : Nat) {rest : List Char} (hrest : Ends rest) :
    readValue (fuel + 1) ((toString i).toList ++ rest) = some (.int i, rest) := by
  rw [← readNumber_toString i hrest]
  obtain ⟨d, ds, hds, hd⟩ := Number.exists_toDigits_eq_cons i.natAbs
  rw [Number.toList_toString, hds]
  by_cases hi : i < 0
  · rw [if_pos hi]
    exact readValue_of_minus hd fuel _
  · rw [if_neg hi]
    exact readValue_of_digit hd fuel _

/-- A value starts with a character that is no blank and no closing bracket. -/
theorem exists_chars_eq_cons {j : Json} (h : Plain j) (l : Layout) (depth : Nat) :
    ∃ c cs, chars l depth j = c :: cs ∧ isGap c = false ∧ c ≠ ']' := by
  cases h with
  | null => exact ⟨_, _, rfl, by decide, by decide⟩
  | bool b => cases b <;> exact ⟨_, _, rfl, by decide, by decide⟩
  | int i =>
    obtain ⟨d, ds, hds, hd⟩ := Number.exists_toDigits_eq_cons i.natAbs
    have hbracket : d ≠ ']' := by
      rintro rfl
      exact absurd hd (by decide)
    rw [chars, Number.toList_toString, hds]
    by_cases hi : i < 0
    · exact ⟨'-', d :: ds, by rw [if_pos hi]; rfl, by decide, by decide⟩
    · exact ⟨d, ds, by rw [if_neg hi]; rfl, not_isGap_of_isDigit hd, hbracket⟩
  | text s => exact ⟨'"', _, rfl, by decide, by decide⟩
  | @list items _ =>
    cases items with
    | nil => exact ⟨_, _, rfl, by decide, by decide⟩
    | cons j js => exact ⟨'[', _, rfl, by decide, by decide⟩
  | @object fields _ _ =>
    cases fields with
    | nil => exact ⟨_, _, rfl, by decide, by decide⟩
    | cons f fs => exact ⟨'\x7b', _, rfl, by decide, by decide⟩

theorem ends_append {gap rest : List Char} (hgap : IsGap gap) (hrest : Ends rest) :
    Ends (gap ++ rest) := by
  cases gap with
  | nil => exact hrest
  | cons c cs =>
    have hc := hgap c (List.mem_cons_self ..)
    simp only [isGap, Bool.or_eq_true, beq_iff_eq] at hc
    rcases hc with ((rfl | rfl) | rfl) | rfl <;> exact ends_cons (by decide) _

/-- The items of a list are read one after the other, up to the closing bracket. -/
theorem readItems_itemChars (l : Layout) (depth : Nat) {after : List Char} (hafter : IsGap after)
    (rest : List Char) (j : Json) (js : List Json) (h : ∀ x ∈ j :: js, ReadsBack l x) {fuel : Nat}
    (hfuel : (itemChars l depth true (j :: js)).length < fuel) (acc : List Json) :
    readItems fuel acc (itemChars l depth true (j :: js) ++ after ++ ']' :: rest) =
      some (acc.reverse ++ j :: js, rest) := by
  induction js generalizing j fuel acc with
  | nil =>
    cases fuel with
    | zero => exact absurd hfuel (Nat.not_lt_zero _)
    | succ fuel =>
      have hlength : (chars l depth j).length ≤ fuel := by
        simp [itemChars] at hfuel
        omega
      have hread := h j (List.mem_cons_self ..) depth fuel (l.lead depth) (after ++ ']' :: rest)
        (isGap_lead l depth) (ends_append hafter (ends_cons (by decide) rest)) hlength
      have hclose : skipGap (after ++ ']' :: rest) = ']' :: rest := by
        rw [skipGap_append hafter, skipGap_cons (by decide)]
      simp only [itemChars, if_true, List.nil_append, List.append_nil, List.append_assoc] at hread ⊢
      simp [readItems, hread, hclose]
  | cons k js ih =>
    cases fuel with
    | zero => exact absurd hfuel (Nat.not_lt_zero _)
    | succ fuel =>
      rw [itemChars, itemChars_false] at hfuel ⊢
      simp only [if_true, List.nil_append, List.length_append, List.length_cons] at hfuel
      have hread := h j (List.mem_cons_self ..) depth fuel (l.lead depth)
        (',' :: (itemChars l depth true (k :: js) ++ after ++ ']' :: rest))
        (isGap_lead l depth) (ends_cons (by decide) _) (by omega)
      have hlength : (itemChars l depth true (k :: js)).length < fuel := by omega
      have hmore := ih k (fun x hx => h x (List.mem_cons_of_mem _ hx)) hlength (j :: acc)
      simp only [if_true, List.nil_append, List.append_assoc, List.cons_append] at hread hmore ⊢
      simp [readItems, hread, skipGap_cons (show isGap ',' = false by decide), hmore]

/-- A new name goes last. -/
theorem putField_of_not_mem {fields : List (String × Json)} {name : String}
    (h : name ∉ fields.map (·.1)) (j : Json) :
    Document.putField fields name j = fields ++ [(name, j)] := by
  have hnone : ¬ (fields.any fun f => f.1 == name) = true := by
    intro hany
    obtain ⟨f, hf, heq⟩ := List.any_eq_true.mp hany
    exact h (List.mem_map.mpr ⟨f, hf, by simpa using heq⟩)
  unfold Document.putField
  rw [if_neg hnone]

/-- Behind a field stands a comma and the next field, or the closing brace. -/
def readMore (fuel : Nat) (fields : List (String × Json)) (rest : List Char) :
    Option (List (String × Json) × List Char) :=
  match skipGap rest with
  | ',' :: more => readFields fuel fields more
  | '\x7d' :: more => some (fields, more)
  | _ => none

/-- What is read of a field: its name, a colon, and its value. -/
theorem readFields_field (l : Layout) (depth : Nat) {f : String × Json} (h : ReadsBack l f.2)
    {fuel : Nat} (hfuel : (chars l depth f.2).length ≤ fuel) {acc : List (String × Json)}
    (hname : f.1 ∉ acc.map (·.1)) {rest : List Char} (hrest : Ends rest) :
    readFields (fuel + 1) acc
        (l.lead depth ++ quote f.1 ++ l.colon ++ chars l depth f.2 ++ rest) =
      readMore fuel (acc ++ [f]) rest := by
  obtain ⟨gap, hgap, hcolon⟩ := exists_colon l
  obtain ⟨inside, hinside, hread⟩ :=
    readText_quote f.1 (':' :: (gap ++ chars l depth f.2 ++ rest))
  have hvalue := h depth fuel gap rest hgap hrest hfuel
  have hskip : skipGap (l.lead depth ++ quote f.1 ++ l.colon ++ chars l depth f.2 ++ rest) =
      '"' :: inside := by
    rw [hcolon]
    simp only [List.append_assoc, List.cons_append] at hinside ⊢
    rw [skipGap_append (isGap_lead l depth), hinside, skipGap_cons (by decide)]
  rw [readFields, hskip]
  simp only [hread, Option.bind_eq_bind, Option.bind_some, skipGap_cons (show isGap ':' = false
    by decide), hvalue, putField_of_not_mem hname]
  rfl

theorem fst_not_mem_of_nodup {acc fs : List (String × Json)} {f : String × Json}
    (h : ((acc ++ f :: fs).map (·.1)).Nodup) : f.1 ∉ acc.map (·.1) := by
  rw [List.map_append, List.map_cons, List.nodup_append] at h
  exact fun hmem => h.2.2 _ hmem _ (List.mem_cons_self ..) rfl

/-- The fields of an object are read one after the other, up to the closing brace. -/
theorem readFields_fieldChars (l : Layout) (depth : Nat) {after : List Char}
    (hafter : IsGap after) (rest : List Char) (f : String × Json) (fs : List (String × Json))
    (h : ∀ x ∈ f :: fs, ReadsBack l x.2) {fuel : Nat}
    (hfuel : (fieldChars l depth true (f :: fs)).length < fuel) {acc : List (String × Json)}
    (hnames : ((acc ++ f :: fs).map (·.1)).Nodup) :
    readFields fuel acc (fieldChars l depth true (f :: fs) ++ after ++ '\x7d' :: rest) =
      some (acc ++ f :: fs, rest) := by
  induction fs generalizing f fuel acc with
  | nil =>
    cases fuel with
    | zero => exact absurd hfuel (Nat.not_lt_zero _)
    | succ fuel =>
      have hlength : (chars l depth f.2).length ≤ fuel := by
        simp [fieldChars] at hfuel
        omega
      have hends : Ends (after ++ '\x7d' :: rest) :=
        ends_append hafter (ends_cons (by decide) rest)
      have hread := readFields_field l depth (h f (List.mem_cons_self ..)) hlength
        (fst_not_mem_of_nodup hnames) hends
      rw [readMore, skipGap_append hafter,
        skipGap_cons (show isGap '\x7d' = false by decide)] at hread
      simpa [fieldChars] using hread
  | cons g fs ih =>
    cases fuel with
    | zero => exact absurd hfuel (Nat.not_lt_zero _)
    | succ fuel =>
      rw [fieldChars, fieldChars_false] at hfuel ⊢
      simp only [if_true, List.nil_append, List.length_append, List.length_cons] at hfuel
      have hends : Ends (',' :: (fieldChars l depth true (g :: fs) ++ after ++ '\x7d' :: rest)) :=
        ends_cons (by decide) _
      have hvalue : (chars l depth f.2).length ≤ fuel := by omega
      have hlength : (fieldChars l depth true (g :: fs)).length < fuel := by omega
      have hnames' : (((acc ++ [f]) ++ g :: fs).map (·.1)).Nodup := by simpa using hnames
      have hread := readFields_field l depth (h f (List.mem_cons_self ..)) hvalue
        (fst_not_mem_of_nodup hnames) hends
      have hmore := ih g (fun x hx => h x (List.mem_cons_of_mem _ hx)) hlength hnames'
      rw [readMore, skipGap_cons (show isGap ',' = false by decide)] at hread
      simp only [if_true, List.append_assoc, List.cons_append, List.nil_append] at hread hmore ⊢
      rw [hread, hmore]

/-! ### The whole text -/

theorem readsBack_list (l : Layout) {items : List Json} (hplain : ∀ j ∈ items, Plain j)
    (h : ∀ j ∈ items, ReadsBack l j) : ReadsBack l (.list items) := by
  intro depth fuel gap rest hgap hrest hfuel
  rw [List.append_assoc, readValue_gap hgap]
  cases items with
  | nil =>
    cases fuel with
    | zero => simp [chars] at hfuel
    | succ fuel =>
      simp [readValue, chars, skipGap_cons (show isGap '[' = false by decide),
        skipGap_cons (show isGap ']' = false by decide)]
  | cons j js =>
    have hchars : chars l depth (.list (j :: js)) =
        '[' :: (itemChars l (depth + 1) true (j :: js) ++ l.lead depth ++ [']']) := by
      simp [chars]
    rw [hchars] at hfuel ⊢
    cases fuel with
    | zero => simp at hfuel
    | succ fuel =>
      have hlength : (itemChars l (depth + 1) true (j :: js)).length < fuel := by
        simp at hfuel
        omega
      have hread := readItems_itemChars l (depth + 1) (isGap_lead l depth) rest j js h hlength []
      -- What stands behind the bracket is no closing one, so items are read.
      obtain ⟨c, cs, hc, hblank, hbracket⟩ :=
        exists_chars_eq_cons (hplain j (List.mem_cons_self ..)) l (depth + 1)
      have hfirst : ∃ more, skipGap (itemChars l (depth + 1) true (j :: js) ++ l.lead depth ++
          ']' :: rest) = c :: more := by
        refine ⟨cs ++ itemChars l (depth + 1) false js ++ l.lead depth ++ ']' :: rest, ?_⟩
        rw [itemChars, hc]
        simp only [if_true, List.nil_append, List.append_assoc]
        rw [skipGap_append (isGap_lead l (depth + 1)), List.cons_append, skipGap_cons hblank]
      obtain ⟨more, hfirst⟩ := hfirst
      unfold readValue
      rw [List.cons_append, skipGap_cons (by decide)]
      simp only [List.append_assoc, List.cons_append, List.nil_append] at hread hfirst ⊢
      simp only [hfirst, hread]
      simp [hbracket]

theorem readsBack_object (l : Layout) {fields : List (String × Json)}
    (hnames : (fields.map (·.1)).Nodup) (h : ∀ f ∈ fields, ReadsBack l f.2) :
    ReadsBack l (.object fields) := by
  intro depth fuel gap rest hgap hrest hfuel
  rw [List.append_assoc, readValue_gap hgap]
  cases fields with
  | nil =>
    cases fuel with
    | zero => simp [chars] at hfuel
    | succ fuel =>
      simp [readValue, chars, skipGap_cons (show isGap '\x7b' = false by decide),
        skipGap_cons (show isGap '\x7d' = false by decide)]
  | cons f fs =>
    have hchars : chars l depth (.object (f :: fs)) =
        '\x7b' :: (fieldChars l (depth + 1) true (f :: fs) ++ l.lead depth ++ ['\x7d']) := by
      simp [chars]
    rw [hchars] at hfuel ⊢
    cases fuel with
    | zero => simp at hfuel
    | succ fuel =>
      have hlength : (fieldChars l (depth + 1) true (f :: fs)).length < fuel := by
        simp at hfuel
        omega
      have hnames' : ((([] : List (String × Json)) ++ f :: fs).map (·.1)).Nodup := hnames
      have hread := readFields_fieldChars l (depth + 1) (isGap_lead l depth) rest f fs h hlength
        hnames'
      -- What stands behind the brace is a quote, so fields are read.
      have hfirst : ∃ more, skipGap (fieldChars l (depth + 1) true (f :: fs) ++ l.lead depth ++
          '\x7d' :: rest) = '"' :: more := by
        obtain ⟨inside, hinside, -⟩ := readText_quote f.1 (l.colon ++ chars l (depth + 1) f.2 ++
          fieldChars l (depth + 1) false fs ++ l.lead depth ++ '\x7d' :: rest)
        refine ⟨inside, ?_⟩
        rw [fieldChars]
        simp only [if_true, List.nil_append, List.append_assoc] at hinside ⊢
        rw [skipGap_append (isGap_lead l (depth + 1)), hinside, skipGap_cons (by decide)]
      obtain ⟨more, hfirst⟩ := hfirst
      unfold readValue
      rw [List.cons_append, skipGap_cons (by decide)]
      simp only [List.append_assoc, List.cons_append, List.nil_append] at hread hfirst ⊢
      simp only [hfirst, hread]
      rfl

/-- Plain values are read back. -/
theorem readsBack_of_plain (l : Layout) {j : Json} (h : Plain j) : ReadsBack l j := by
  induction h with
  | list hplain ih => exact readsBack_list l hplain ih
  | object hnames _ ih => exact readsBack_object l hnames ih
  | null =>
    intro depth fuel gap rest hgap hrest hfuel
    rw [List.append_assoc, readValue_gap hgap]
    cases fuel with
    | zero => simp [chars] at hfuel
    | succ fuel =>
      rw [← readWord_append "null" .null rest]
      simp [chars, readValue, skipGap, isGap]
  | bool b =>
    intro depth fuel gap rest hgap hrest hfuel
    rw [List.append_assoc, readValue_gap hgap]
    cases fuel with
    | zero => cases b <;> simp [chars] at hfuel
    | succ fuel =>
      rw [← readWord_append (if b then "true" else "false") (.bool b) rest]
      cases b <;> simp [chars, readValue, skipGap, isGap]
  | int i =>
    intro depth fuel gap rest hgap hrest hfuel
    rw [List.append_assoc, readValue_gap hgap]
    cases fuel with
    | zero =>
      obtain ⟨c, cs, hc, -⟩ := exists_chars_eq_cons (.int i) l depth
      simp [hc] at hfuel
    | succ fuel => exact readValue_toString i fuel hrest
  | text s =>
    intro depth fuel gap rest hgap hrest hfuel
    rw [List.append_assoc, readValue_gap hgap]
    obtain ⟨inside, hinside, hread⟩ := readText_quote s rest
    cases fuel with
    | zero => simp [chars, quote] at hfuel
    | succ fuel =>
      rw [chars, hinside]
      simp [readValue, skipGap_cons (show isGap '"' = false by decide), hread]

/-- **A plain value is read back from its text**, in either layout. -/
theorem parse?_write (l : Layout) {j : Json} (h : Plain j) : parse? (write l j) = some j := by
  have hread := readsBack_of_plain l h 0 (2 * (chars l 0 j).length + 2) [] [] isGap_nil ends_nil
    (by omega)
  rw [List.nil_append, List.append_nil] at hread
  unfold parse? write
  rw [String.toList_ofList]
  simp only [hread]
  rfl

end PinLedger.Json

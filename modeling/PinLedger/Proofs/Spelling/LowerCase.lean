/-
# A text in lower case stays as it is

The letters that have a lower case come in runs, and no run has a letter that another run ends at:
what a letter becomes has no lower case of its own. So a text in lower case consists of settled
characters, the ones that lowering passes on, and lowering it again changes nothing. Nor does
lowering bring in a blank, so a text without blanks at its ends has none after it.

Key definitions: `LowerRun.image`, `LowerRun.landsOutside`, `Settled`.
Key theorems: `settled_lowerChar`, `settled_of_mem_lowerAfter`, `lowerAfter_of_settled`,
`strip_lower_strip`.
-/
import Mathlib.Data.List.Basic
import PinLedger.Text.Blank
import PinLedger.Proofs.Spelling.Names

namespace PinLedger.Text

/-! ### Where the runs lead -/

namespace LowerRun

/-- The code point that the letter `n` of a run becomes. -/
def image (r : LowerRun) (n : Nat) : Nat := (n + r.shift).toNat

/-- No letter of the run `r` becomes one that the run `s` covers: either they all come to lie on
one side of `s`, or they fall into the gaps of a run that has every second letter. -/
def landsOutside (r s : LowerRun) : Bool :=
  Nat.blt (r.image r.last) s.first || Nat.blt s.last (r.image r.first) ||
    ((r.step == 2 || r.first == r.last) && s.step == 2 && r.image r.first % 2 != s.first % 2)

/-- Neither the letters of a run nor what they become lie in the range. -/
def misses (r : LowerRun) (range : Nat × Nat) : Bool :=
  (Nat.blt r.last range.1 || Nat.blt range.2 r.first) &&
    (Nat.blt (r.image r.last) range.1 || Nat.blt range.2 (r.image r.first))

/-- A run moves its letters within the code points. -/
def staysInside (r : LowerRun) : Bool :=
  Nat.ble r.first r.last && decide (0 ≤ r.first + r.shift) && Nat.blt (r.image r.last) 0x110000

theorem covers_iff {r : LowerRun} {n : Nat} :
    r.covers n = true ↔ r.first ≤ n ∧ n ≤ r.last ∧ (n - r.first) % r.step = 0 := by
  simp only [covers, Bool.and_eq_true, decide_eq_true_eq, beq_iff_eq, and_assoc]

theorem image_bounds {r : LowerRun} (h : r.staysInside = true) {n : Nat} (hn : r.covers n = true) :
    (r.image n : Int) = n + r.shift ∧ r.image r.first ≤ r.image n ∧ r.image n ≤ r.image r.last := by
  obtain ⟨hfirst, hlast, -⟩ := covers_iff.mp hn
  simp only [staysInside, Bool.and_eq_true, decide_eq_true_eq] at h
  obtain ⟨⟨-, habove⟩, -⟩ := h
  simp only [image]
  omega

theorem image_lt {r : LowerRun} (h : r.staysInside = true) {n : Nat} (hn : r.covers n = true) :
    r.image n < 0x110000 := by
  have hle : r.image n ≤ r.image r.last := (image_bounds h hn).2.2
  simp only [staysInside, Bool.and_eq_true, Nat.blt_eq] at h
  omega

theorem covers_image_eq_false {r s : LowerRun} (hinside : r.staysInside = true)
    (hland : r.landsOutside s = true) {n : Nat} (hn : r.covers n = true) :
    s.covers (r.image n) = false := by
  obtain ⟨himage, hlow, hhigh⟩ := image_bounds hinside hn
  obtain ⟨hfirst, hlast, hstep⟩ := covers_iff.mp hn
  have hstart : (r.image r.first : Int) = r.first + r.shift := by
    simp only [staysInside, Bool.and_eq_true, decide_eq_true_eq] at hinside
    simp only [image]
    omega
  rw [Bool.eq_false_iff, Ne, covers_iff]
  rintro ⟨hbegin, hend, hmod⟩
  simp only [landsOutside, Bool.or_eq_true, Bool.and_eq_true, beq_iff_eq, bne_iff_ne,
    Nat.blt_eq] at hland
  rcases hland with (hbelow | hbeyond) | ⟨⟨hsparse, hsecond⟩, hparity⟩
  · omega
  · omega
  · rw [hsecond] at hmod
    rcases hsparse with htwo | hone
    · rw [htwo] at hstep
      omega
    · omega

theorem out_of_range {r : LowerRun} {range : Nat × Nat} (hinside : r.staysInside = true)
    (hmiss : r.misses range = true) {n : Nat} (hn : r.covers n = true) :
    ¬ (range.1 ≤ n ∧ n ≤ range.2) ∧ ¬ (range.1 ≤ r.image n ∧ r.image n ≤ range.2) := by
  obtain ⟨-, hlow, hhigh⟩ := image_bounds hinside hn
  obtain ⟨hfirst, hlast, -⟩ := covers_iff.mp hn
  simp only [misses, Bool.and_eq_true, Bool.or_eq_true, Nat.blt_eq] at hmiss
  omega

end LowerRun

/-- No run leads to a letter that has a lower case. -/
theorem lowerRuns_landOutside {r s : LowerRun} (hr : r ∈ lowerRuns) (hs : s ∈ lowerRuns) :
    r.landsOutside s = true := by
  have hall : (lowerRuns.all fun r => lowerRuns.all r.landsOutside) = true := by decide +kernel
  exact List.all_eq_true.mp (List.all_eq_true.mp hall r hr) s hs

/-- The code points that no run touches: the blanks, the dotted capital I, and the
surrogates. -/
def untouched : CharSet :=
  spaceSet ++ [(0x1C, 0x1F), (0x130, 0x130), (0xD800, 0xDFFF)]

theorem lowerRuns_staysInside {r : LowerRun} (hr : r ∈ lowerRuns) : r.staysInside = true := by
  have hall : lowerRuns.all LowerRun.staysInside = true := by decide +kernel
  exact List.all_eq_true.mp hall r hr

theorem lowerRuns_miss {r : LowerRun} (hr : r ∈ lowerRuns) {range : Nat × Nat}
    (hrange : range ∈ untouched) : r.misses range = true := by
  have hall : (lowerRuns.all fun r => untouched.all r.misses) = true := by decide +kernel
  exact List.all_eq_true.mp (List.all_eq_true.mp hall r hr) range hrange

/-- A run touches no code point of `untouched`. -/
theorem hasCode_untouched {r : LowerRun} (hr : r ∈ lowerRuns) {n : Nat} (hn : r.covers n = true) :
    untouched.hasCode n = false ∧ untouched.hasCode (r.image n) = false := by
  have hmiss : ∀ range ∈ untouched,
      ¬ (range.1 ≤ n ∧ n ≤ range.2) ∧ ¬ (range.1 ≤ r.image n ∧ r.image n ≤ range.2) :=
    fun range hrange => r.out_of_range (lowerRuns_staysInside hr) (lowerRuns_miss hr hrange) hn
  constructor
  · rw [Bool.eq_false_iff, Ne, CharSet.hasCode_iff]
    rintro ⟨range, hrange, hin⟩
    exact (hmiss range hrange).1 hin
  · rw [Bool.eq_false_iff, Ne, CharSet.hasCode_iff]
    rintro ⟨range, hrange, hin⟩
    exact (hmiss range hrange).2 hin

/-! ### Single letters -/

/-- The runs cover the ASCII letters too, by the first of them. -/
theorem lowerChar_eq_find (c : Char) : lowerChar c =
    match lowerRuns.find? (·.covers c.toNat) with
    | some r => Char.ofNat (c.toNat + r.shift).toNat
    | none => c := by
  have hhead : lowerRuns = ⟨0x41, 0x5A, 1, 32⟩ :: lowerRuns.tail := rfl
  have htail : lowerRuns.tail.all (fun r => Nat.ble 0x80 r.first) = true := by decide +kernel
  by_cases hascii : c.toNat < 0x80
  · rw [lowerChar, if_pos hascii, hhead]
    have hnone : lowerRuns.tail.find? (·.covers c.toNat) = none := by
      rw [List.find?_eq_none]
      intro r hr hcovers
      have hfirst : 0x80 ≤ r.first := Nat.le_of_ble_eq_true (List.all_eq_true.mp htail r hr)
      have hle : r.first ≤ c.toNat := (LowerRun.covers_iff.mp hcovers).1
      omega
    have hrange : ('A' ≤ c ∧ c ≤ 'Z') ↔ (⟨0x41, 0x5A, 1, 32⟩ : LowerRun).covers c.toNat = true := by
      have hvalue : c.toNat = c.val.toNat := rfl
      have hupper : 'A'.val.toNat = 0x41 := rfl
      have hlower : 'Z'.val.toNat = 0x5A := rfl
      rw [LowerRun.covers_iff, Char.le_def, Char.le_def, UInt32.le_iff_toNat_le,
        UInt32.le_iff_toNat_le, hvalue, hupper, hlower]
      simp only [Nat.mod_one, and_true]
    by_cases hletter : 'A' ≤ c ∧ c ≤ 'Z'
    · rw [if_pos hletter, List.find?_cons_of_pos (by exact hrange.mp hletter)]
      rfl
    · rw [if_neg hletter, List.find?_cons_of_neg (by exact mt hrange.mpr hletter), hnone]
  · exact if_neg hascii

/-- Either no run covers a letter, and it is its own lower case, or a run leads to its lower
case. -/
theorem lowerChar_cases (c : Char) :
    (lowerChar c = c ∧ ∀ r ∈ lowerRuns, r.covers c.toNat = false) ∨
      ∃ r ∈ lowerRuns, r.covers c.toNat = true ∧ (lowerChar c).toNat = r.image c.toNat := by
  rw [lowerChar_eq_find]
  cases hfind : lowerRuns.find? (·.covers c.toNat) with
  | none =>
    left
    refine ⟨rfl, fun r hr => ?_⟩
    simpa using List.find?_eq_none.mp hfind r hr
  | some r =>
    right
    have hr : r ∈ lowerRuns := List.mem_of_find?_eq_some hfind
    have hcovers : r.covers c.toNat = true := by simpa using List.find?_some hfind
    refine ⟨r, hr, hcovers, ?_⟩
    have huntouched := (hasCode_untouched hr hcovers).2
    rw [Bool.eq_false_iff, Ne, CharSet.hasCode_iff] at huntouched
    have hsurrogate : ¬ (0xD800 ≤ r.image c.toNat ∧ r.image c.toNat ≤ 0xDFFF) := fun hin =>
      huntouched ⟨(0xD800, 0xDFFF), by decide, hin⟩
    have hlt : r.image c.toNat < 0x110000 := r.image_lt (lowerRuns_staysInside hr) hcovers
    have hvalid : (r.image c.toNat).isValidChar := by
      unfold Nat.isValidChar
      omega
    show (Char.ofNat (r.image c.toNat)).toNat = r.image c.toNat
    rw [Char.ofNat, dif_pos hvalid]
    rfl

theorem lowerChar_lowerChar (c : Char) : lowerChar (lowerChar c) = lowerChar c := by
  rcases lowerChar_cases c with ⟨hsame, -⟩ | ⟨r, hr, hcovers, himage⟩
  · rw [hsame, hsame]
  · rcases lowerChar_cases (lowerChar c) with ⟨hsame, -⟩ | ⟨s, hs, hcovers', -⟩
    · exact hsame
    · have houtside : s.covers (r.image c.toNat) = false :=
        LowerRun.covers_image_eq_false (lowerRuns_staysInside hr) (lowerRuns_landOutside hr hs)
          hcovers
      rw [himage, houtside] at hcovers'
      exact absurd hcovers' (by decide)

theorem lowerChar_ne_dotted {c : Char} (h : c ≠ 'İ') : lowerChar c ≠ 'İ' := by
  rcases lowerChar_cases c with ⟨hsame, -⟩ | ⟨r, hr, hcovers, himage⟩
  · rwa [hsame]
  · intro heq
    have hafter : untouched.hasCode (r.image c.toNat) = false := (hasCode_untouched hr hcovers).2
    rw [← himage, heq] at hafter
    exact absurd hafter (by decide)

theorem lowerChar_ne_sigma (c : Char) : lowerChar c ≠ 'Σ' := by
  intro heq
  have htwice : lowerChar 'Σ' = 'Σ' := by rw [← heq, lowerChar_lowerChar]
  exact absurd htwice (by decide +kernel)

theorem isBlank_eq_false_of_untouched {c : Char} (h : untouched.has c = false) :
    isBlank c = false := by
  simp only [CharSet.has, untouched, CharSet.hasCode_append, Bool.or_eq_false_iff] at h
  obtain ⟨hspace, hothers⟩ := h
  simp only [CharSet.hasCode, List.any_cons, Bool.or_eq_false_iff] at hothers
  simp only [isBlank, isSpace, CharSet.has, Bool.or_eq_false_iff]
  exact ⟨hspace, hothers.1⟩

theorem isBlank_lowerChar {c : Char} (h : isBlank c = false) : isBlank (lowerChar c) = false := by
  rcases lowerChar_cases c with ⟨hsame, -⟩ | ⟨r, hr, hcovers, himage⟩
  · rwa [hsame]
  · have hafter : untouched.has (lowerChar c) = false := by
      rw [CharSet.has, himage]
      exact (hasCode_untouched hr hcovers).2
    exact isBlank_eq_false_of_untouched hafter

/-- Nothing but a slash becomes a slash in lower case. -/
theorem eq_slash_of_lowerChar {c : Char} (h : lowerChar c = '/') : c = '/' := by
  have hmiss : (lowerRuns.all fun r => r.misses (0x2F, 0x2F)) = true := by decide +kernel
  rcases lowerChar_cases c with ⟨hsame, -⟩ | ⟨r, hr, hcovers, himage⟩
  · rw [← hsame, h]
  · have hslash : r.image c.toNat = 0x2F := by
      rw [← himage, h]
      rfl
    have hout := (r.out_of_range (lowerRuns_staysInside hr) (List.all_eq_true.mp hmiss r hr)
      hcovers).2
    exact absurd ⟨hslash.ge, hslash.le⟩ hout

/-! ### Settled characters -/

/-- A character that lowering passes on wherever it stands. -/
def Settled (c : Char) : Prop := lowerChar c = c ∧ c ≠ 'Σ' ∧ c ≠ 'İ'

instance (c : Char) : Decidable (Settled c) :=
  inferInstanceAs (Decidable (lowerChar c = c ∧ c ≠ 'Σ' ∧ c ≠ 'İ'))

theorem settled_lowerChar {c : Char} (h : c ≠ 'İ') : Settled (lowerChar c) :=
  ⟨lowerChar_lowerChar c, lowerChar_ne_sigma c, lowerChar_ne_dotted h⟩

/-- What one character of a text becomes: two letters for the dotted capital I, one of two for
the capital sigma, and for any other its own lower case. -/
theorem lowerAfter_cons_eq (before : List Char) (c : Char) (cs : List Char) :
    ∃ out, lowerAfter before (c :: cs) = out ++ lowerAfter (c :: before) cs ∧
      (out = ['ς'] ∨ out = ['σ'] ∨ out = ['i', '\u0307'] ∨ (c ≠ 'İ' ∧ out = [lowerChar c])) := by
  by_cases hsigma : c = 'Σ'
  · refine ⟨[if nextIsCased before && !nextIsCased cs then 'ς' else 'σ'], ?_, ?_⟩
    · rw [lowerAfter, if_pos hsigma]
    · split
      · exact .inl rfl
      · exact .inr (.inl rfl)
  · by_cases hdotted : c = 'İ'
    · refine ⟨['i', '\u0307'], ?_, .inr (.inr (.inl rfl))⟩
      rw [lowerAfter, if_neg hsigma, if_pos hdotted]
    · exact ⟨[lowerChar c], lowerAfter_cons hsigma hdotted before cs,
        .inr (.inr (.inr ⟨hdotted, rfl⟩))⟩

/-- Lowering brings no slash into a text. -/
theorem slash_not_mem_lowerAfter {before cs : List Char} (h : '/' ∉ cs) :
    '/' ∉ lowerAfter before cs := by
  induction cs generalizing before with
  | nil => exact List.not_mem_nil
  | cons c cs ih =>
    obtain ⟨hc, hcs⟩ := not_or.mp (mt List.mem_cons.mpr h)
    obtain ⟨out, heq, hout⟩ := lowerAfter_cons_eq before c cs
    rw [heq, List.mem_append, not_or]
    refine ⟨?_, ih hcs⟩
    rcases hout with rfl | rfl | rfl | ⟨-, rfl⟩
    · decide
    · decide
    · decide
    · exact fun hmem => hc (eq_slash_of_lowerChar (List.mem_singleton.mp hmem).symm).symm

/-- A text in lower case consists of settled characters. -/
theorem settled_of_mem_lowerAfter {before cs : List Char} {d : Char}
    (h : d ∈ lowerAfter before cs) : Settled d := by
  induction cs generalizing before with
  | nil => exact absurd h List.not_mem_nil
  | cons c cs ih =>
    obtain ⟨out, heq, hout⟩ := lowerAfter_cons_eq before c cs
    rw [heq] at h
    rcases List.mem_append.mp h with hfirst | hrest
    · rcases hout with rfl | rfl | rfl | ⟨hdotted, rfl⟩
      · obtain rfl := List.mem_singleton.mp hfirst
        decide +kernel
      · obtain rfl := List.mem_singleton.mp hfirst
        decide +kernel
      · have hboth : ∀ d ∈ ['i', '\u0307'], Settled d :=
          List.all_iff_forall_prop.mp (by decide +kernel)
        exact hboth d hfirst
      · obtain rfl := List.mem_singleton.mp hfirst
        exact settled_lowerChar hdotted
    · exact ih hrest

/-- Lowering passes settled characters on. -/
theorem lowerAfter_of_settled {cs : List Char} (h : ∀ c ∈ cs, Settled c) (before : List Char) :
    lowerAfter before cs = cs := by
  induction cs generalizing before with
  | nil => rfl
  | cons c cs ih =>
    obtain ⟨⟨hsame, hsigma, hdotted⟩, hrest⟩ := List.forall_mem_cons.mp h
    rw [lowerAfter_cons hsigma hdotted, hsame, ih hrest]

/-! ### Blanks at the ends -/

/-- Neither the first nor the last character of a text satisfies `p`. -/
def EndsOutside (p : Char → Bool) (cs : List Char) : Prop :=
  (∀ c ∈ cs.head?, p c = false) ∧ (∀ c ∈ cs.getLast?, p c = false)

theorem trimBoth_of_endsOutside {p : Char → Bool} {cs : List Char} (h : EndsOutside p cs) :
    trimBoth p cs = cs := by
  obtain ⟨hhead, hlast⟩ := h
  cases cs with
  | nil => rfl
  | cons c rest =>
    have hfirst : (c :: rest).dropWhile p = c :: rest :=
      List.dropWhile_cons_of_neg (by simp [hhead c rfl])
    obtain ⟨front, d, hback⟩ : ∃ front d, c :: rest = front ++ [d] :=
      ⟨_, _, (List.dropLast_append_getLast (List.cons_ne_nil c rest)).symm⟩
    have hend : p d = false := hlast d (by rw [hback, List.getLast?_concat]; rfl)
    have hkept : (d :: front.reverse).dropWhile p = d :: front.reverse :=
      List.dropWhile_cons_of_neg (by simp [hend])
    rw [trimBoth, hfirst, hback, List.reverse_append, List.reverse_singleton,
      List.singleton_append, hkept, List.reverse_cons, List.reverse_reverse]

theorem head?_dropWhile {p : Char → Bool} {cs : List Char} {c : Char}
    (h : c ∈ (cs.dropWhile p).head?) : p c = false := by
  have hnot := List.head?_dropWhile_not p cs
  rwa [Option.mem_def.mp h] at hnot

theorem endsOutside_trimBoth (p : Char → Bool) (cs : List Char) :
    EndsOutside p (trimBoth p cs) := by
  constructor
  · intro c hc
    -- What is left after the last characters are dropped begins where it began before.
    have hfront : trimBoth p cs <+: cs.dropWhile p := by
      rw [trimBoth, ← List.reverse_suffix, List.reverse_reverse]
      exact List.dropWhile_suffix p
    obtain ⟨back, heq⟩ := hfront
    have hkept : c ∈ (cs.dropWhile p).head? := by
      rw [← heq, List.head?_append, Option.mem_def.mp hc]
      rfl
    exact head?_dropWhile hkept
  · intro c hc
    rw [trimBoth, List.getLast?_reverse] at hc
    exact head?_dropWhile hc

/-- A character that is no blank becomes characters that are none. -/
theorem lowerAfter_cons_not_blank {c : Char} (hc : isBlank c = false) (before cs : List Char) :
    ∃ out, lowerAfter before (c :: cs) = out ++ lowerAfter (c :: before) cs ∧ out ≠ [] ∧
      ∀ d ∈ out, isBlank d = false := by
  obtain ⟨out, heq, hout⟩ := lowerAfter_cons_eq before c cs
  refine ⟨out, heq, ?_⟩
  rcases hout with rfl | rfl | rfl | ⟨-, rfl⟩
  · exact ⟨List.cons_ne_nil _ _, List.all_iff_forall_prop.mp (by decide)⟩
  · exact ⟨List.cons_ne_nil _ _, List.all_iff_forall_prop.mp (by decide)⟩
  · exact ⟨List.cons_ne_nil _ _, List.all_iff_forall_prop.mp (by decide)⟩
  · refine ⟨List.cons_ne_nil _ _, fun d hd => ?_⟩
    obtain rfl := List.mem_singleton.mp hd
    exact isBlank_lowerChar hc

theorem lowerAfter_append (before cs ds : List Char) :
    ∃ front, lowerAfter before (cs ++ ds) = front ++ lowerAfter (cs.reverse ++ before) ds := by
  induction cs generalizing before with
  | nil => exact ⟨[], rfl⟩
  | cons c cs ih =>
    obtain ⟨out, heq, -⟩ := lowerAfter_cons_eq before c (cs ++ ds)
    obtain ⟨front, hrest⟩ := ih (c :: before)
    refine ⟨out ++ front, ?_⟩
    rw [List.cons_append, heq, hrest, List.reverse_cons, List.append_assoc, List.append_assoc]
    rfl

theorem endsOutside_lowerAfter {cs : List Char} (h : EndsOutside isBlank cs) :
    EndsOutside isBlank (lowerAfter [] cs) := by
  obtain ⟨hhead, hlast⟩ := h
  constructor
  · intro d hd
    cases cs with
    | nil => simp [lowerAfter] at hd
    | cons c rest =>
      obtain ⟨out, heq, hsome, hout⟩ := lowerAfter_cons_not_blank (hhead c rfl) [] rest
      obtain ⟨e, more, rfl⟩ := List.exists_cons_of_ne_nil hsome
      rw [heq] at hd
      obtain rfl : e = d := by simpa using hd
      exact hout e (List.mem_cons_self ..)
  · intro d hd
    rcases List.eq_nil_or_concat cs with rfl | ⟨front, c, rfl⟩
    · simp [lowerAfter] at hd
    · have hc : isBlank c = false := hlast c (by simp)
      obtain ⟨lowered, heq⟩ := lowerAfter_append [] front [c]
      obtain ⟨out, hend, hsome, hout⟩ :=
        lowerAfter_cons_not_blank hc (front.reverse ++ []) []
      rw [List.concat_eq_append, heq, hend, lowerAfter, List.append_nil, List.getLast?_append,
        List.getLast?_eq_getLast_of_ne_nil hsome] at hd
      obtain rfl : out.getLast hsome = d := by simpa using hd
      exact hout _ (List.getLast_mem hsome)

/-! ### Lowering twice -/

theorem lower_lower (s : String) : lower (lower s) = lower s := by
  have hsettled : ∀ c ∈ lowerAfter [] s.toList, Settled c := fun c hc => settled_of_mem_lowerAfter hc
  rw [lower, lower, String.toList_ofList, lowerAfter_of_settled hsettled]

/-- Lowering leaves no blank at the ends of a text that has none there. -/
theorem strip_lower_strip (s : String) : strip (lower (strip s)) = lower (strip s) := by
  have hends : EndsOutside isBlank (lowerAfter [] (trimBoth isBlank s.toList)) :=
    endsOutside_lowerAfter (endsOutside_trimBoth isBlank s.toList)
  rw [strip, lower, strip, String.toList_ofList, String.toList_ofList,
    trimBoth_of_endsOutside hends]

end PinLedger.Text

/-
# Names in another spelling

Two spellings of a name have one canonical form. A requirement begins with a name, and behind it
stands nothing, a blank, or the sign that begins an extra, a url, a list of specifiers or a marker.
No such sign is in a name or in any other spelling of it. So if the name is spelled otherwise and
the requirement is still well-formed, it is read with the new spelling
(`Requirement.Respelled.names`).

Key definitions: `Kind.SameName`, `Requirement.followsName`, `Requirement.Respelled`.
Key theorems: `Requirement.name?_eq_some`, `Requirement.followsName_eq_false_of_sameName`,
`Requirement.Respelled.names`.
-/
import Mathlib.Data.Bool.AllAny
import Mathlib.Data.List.TakeWhile
import PinLedger.Name
import PinLedger.Requirement

namespace PinLedger

/-- Two spellings of a name. -/
def Kind.SameName (kind : Kind) (a b : String) : Prop := kind.canonical a = kind.canonical b

instance (kind : Kind) (a b : String) : Decidable (kind.SameName a b) :=
  inferInstanceAs (Decidable (kind.canonical a = kind.canonical b))

/-! ### What a canonical name keeps of a name -/

namespace Name

theorem mem_joinRuns {inRun : Bool} {cs : List Char} {c : Char} (h : c ∈ joinRuns inRun cs) :
    c ∈ cs ∨ c = '-' := by
  induction cs generalizing inRun with
  | nil => simp [joinRuns] at h
  | cons d cs ih =>
    unfold joinRuns at h
    split at h
    · rcases List.mem_append.mp h with hsign | hrest
      · have hdash : c ∈ ['-'] := by
          cases inRun with
          | false => exact hsign
          | true => exact absurd hsign List.not_mem_nil
        exact .inr (List.mem_singleton.mp hdash)
      · exact (ih hrest).imp_left (List.mem_cons_of_mem d)
    · rcases List.mem_cons.mp h with rfl | hrest
      · exact .inl (List.mem_cons_self ..)
      · exact (ih hrest).imp_left (List.mem_cons_of_mem d)

theorem mem_joinRuns_of_mem {cs : List Char} {c : Char} (h : c ∈ cs) (hc : isSeparator c = false)
    (inRun : Bool) : c ∈ joinRuns inRun cs := by
  induction cs generalizing inRun with
  | nil => exact absurd h List.not_mem_nil
  | cons d cs ih =>
    unfold joinRuns
    rcases List.mem_cons.mp h with rfl | hrest
    · rw [if_neg (by simp [hc])]
      exact List.mem_cons_self ..
    · split
      · exact List.mem_append_right _ (ih hrest true)
      · exact List.mem_cons_of_mem _ (ih hrest false)

theorem joinRuns_ne_nil {cs : List Char} (h : cs ≠ []) : joinRuns false cs ≠ [] := by
  obtain ⟨c, rest, rfl⟩ := List.exists_cons_of_ne_nil h
  unfold joinRuns
  split <;> simp

theorem toList_pypi (name : String) :
    (pypi name).toList = joinRuns false (Text.lowerAfter [] name.toList) := by
  rw [pypi, String.toList_ofList, Text.lower, String.toList_ofList]

end Name

namespace Text

theorem lowerAfter_ne_nil {cs : List Char} (h : cs ≠ []) (before : List Char) :
    lowerAfter before cs ≠ [] := by
  obtain ⟨c, rest, rfl⟩ := List.exists_cons_of_ne_nil h
  unfold lowerAfter
  split
  · simp
  · split <;> simp

/-- Every letter but two becomes its own lower case. -/
theorem lowerAfter_cons {c : Char} (hsigma : c ≠ 'Σ') (hdotted : c ≠ 'İ') (before cs : List Char) :
    lowerAfter before (c :: cs) = lowerChar c :: lowerAfter (c :: before) cs := by
  rw [lowerAfter, if_neg hsigma, if_neg hdotted]
  rfl

/-- A character that is its own lower case stays in a text. -/
theorem mem_lowerAfter_of_mem {cs : List Char} {c : Char} (h : c ∈ cs) (hsigma : c ≠ 'Σ')
    (hdotted : c ≠ 'İ') (hc : lowerChar c = c) (before : List Char) :
    c ∈ lowerAfter before cs := by
  induction cs generalizing before with
  | nil => exact absurd h List.not_mem_nil
  | cons d cs ih =>
    rcases List.mem_cons.mp h with rfl | hrest
    · rw [lowerAfter_cons hsigma hdotted, hc]
      exact List.mem_cons_self ..
    · unfold lowerAfter
      exact List.mem_append_right _ (ih hrest (d :: before))

end Text

namespace Requirement

/-! ### What a name consists of -/

/-- A character that ends the name of a requirement: a blank, or the first of an extra, a url, a
list of specifiers or a marker. -/
def followsName (c : Char) : Bool :=
  isGap c || ['[', '@', '(', ';', '=', '~', '!', '<', '>'].contains c

theorem mem_of_followsName {c : Char} (h : followsName c = true) :
    c ∈ [' ', '\t', '[', '@', '(', ';', '=', '~', '!', '<', '>'] := by
  simp only [followsName, isGap, Bool.or_eq_true, beq_iff_eq, List.contains_iff_mem] at h
  rcases h with (rfl | rfl) | h
  · decide
  · decide
  · exact List.mem_cons_of_mem _ (List.mem_cons_of_mem _ h)

theorem isGap_of_followsName {c : Char} (h : followsName c = false) : isGap c = false := by
  rw [followsName, Bool.or_eq_false_iff] at h
  exact h.1

theorem toNat_lt_of_isNameChar {c : Char} (h : isNameChar c = true) : c.toNat < 128 := by
  simp only [isNameChar, Bool.or_eq_true, beq_iff_eq] at h
  rcases h with ((h | rfl) | rfl) | rfl
  · delta Char.isAlphanum Char.isAlpha Char.isUpper Char.isLower Char.isDigit at h
    simp only [Bool.or_eq_true, Bool.and_eq_true, decide_eq_true_eq, UInt32.le_iff_toNat_le,
      ge_iff_le] at h
    have hvalue : c.toNat = c.val.toNat := rfl
    have hupper : 'Z'.val.toNat = 90 := rfl
    have hlower : 'z'.val.toNat = 122 := rfl
    have hdigit : '9'.val.toNat = 57 := rfl
    omega
  all_goals decide

/-- Neither a character of a name nor its lower case ends a name. -/
theorem followsName_of_isNameChar {c : Char} (h : isNameChar c = true) :
    followsName c = false ∧ followsName (Text.lowerChar c) = false ∧ c ≠ 'Σ' ∧ c ≠ 'İ' := by
  have hall : ∀ n < 128, isNameChar (Char.ofNat n) = true → followsName (Char.ofNat n) = false ∧
      followsName (Text.lowerChar (Char.ofNat n)) = false ∧ Char.ofNat n ≠ 'Σ' ∧
      Char.ofNat n ≠ 'İ' := by decide +kernel
  have hc := hall c.toNat (toNat_lt_of_isNameChar h)
  rw [Char.ofNat_toNat] at hc
  exact hc h

theorem followsName_of_mem_lowerAfter {cs : List Char} (h : ∀ c ∈ cs, isNameChar c = true)
    {before : List Char} {d : Char} (hd : d ∈ Text.lowerAfter before cs) :
    followsName d = false := by
  induction cs generalizing before with
  | nil => exact absurd hd List.not_mem_nil
  | cons c cs ih =>
    obtain ⟨hc, hcs⟩ := List.forall_mem_cons.mp h
    obtain ⟨-, hlower, hsigma, hdotted⟩ := followsName_of_isNameChar hc
    rw [Text.lowerAfter_cons hsigma hdotted] at hd
    rcases List.mem_cons.mp hd with rfl | hrest
    · exact hlower
    · exact ih hcs hrest

/-- No spelling of a name has a character that ends names. -/
theorem followsName_eq_false_of_sameName {name name' : String}
    (hname : ∀ c ∈ name.toList, isNameChar c = true) (h : Kind.pypi.SameName name name') {c : Char}
    (hc : c ∈ name'.toList) : followsName c = false := by
  by_contra hfollows
  have hsign := mem_of_followsName (by simpa using hfollows)
  -- Such a sign has no lower case and is no separator, so the canonical form keeps it.
  have hplain : ∀ d ∈ [' ', '\t', '[', '@', '(', ';', '=', '~', '!', '<', '>'],
      d ≠ 'Σ' ∧ d ≠ 'İ' ∧ Text.lowerChar d = d ∧ Name.isSeparator d = false ∧ d ≠ '-' :=
    List.all_iff_forall_prop.mp (by decide)
  obtain ⟨hsigma, hdotted, hlower, hseparator, hdash⟩ := hplain c hsign
  have hkept : c ∈ (Name.pypi name').toList := by
    rw [Name.toList_pypi]
    exact Name.mem_joinRuns_of_mem (Text.mem_lowerAfter_of_mem hc hsigma hdotted hlower [])
      hseparator false
  have hcanonical : Name.pypi name = Name.pypi name' := h
  rw [← hcanonical, Name.toList_pypi] at hkept
  rcases Name.mem_joinRuns hkept with hmem | hdash'
  · exact hfollows (followsName_of_mem_lowerAfter hname hmem)
  · exact hdash hdash'

theorem toList_ne_nil_of_sameName {name name' : String} (hname : name.toList ≠ [])
    (h : Kind.pypi.SameName name name') : name'.toList ≠ [] := by
  intro hnil
  have hcanonical : Name.pypi name = Name.pypi name' := h
  have hsome : (Name.pypi name).toList ≠ [] := by
    rw [Name.toList_pypi]
    exact Name.joinRuns_ne_nil (Text.lowerAfter_ne_nil hname [])
  rw [hcanonical, Name.toList_pypi, hnil] at hsome
  exact hsome rfl

/-! ### What stands behind a name -/

/-- Nothing follows, or a character that ends names. -/
def Follows (rest : List Char) : Prop := ∀ c ∈ rest.head?, followsName c = true

theorem backToWordEnd_eq_some {taken rest found more : List Char}
    (h : backToWordEnd taken rest = some (found, more)) :
    found ++ more = taken.reverse ++ rest ∧ (∀ c ∈ found, c ∈ taken) ∧ found ≠ [] := by
  induction taken generalizing rest with
  | nil => simp [backToWordEnd] at h
  | cons c taken ih =>
    unfold backToWordEnd at h
    split at h
    · obtain ⟨rfl, rfl⟩ := Prod.mk.inj (Option.some.inj h)
      exact ⟨rfl, fun d hd => List.mem_reverse.mp hd, by simp⟩
    · obtain ⟨hwhole, hmem, hsome⟩ := ih h
      exact ⟨by simpa using hwhole, fun d hd => List.mem_cons_of_mem c (hmem d hd), hsome⟩

/-- A name is read off the beginning of a text. -/
theorem readName?_eq_some {cs name rest : List Char} (h : readName? cs = some (name, rest)) :
    cs = name ++ rest ∧ (∀ c ∈ name, isNameChar c = true) ∧ name ≠ [] := by
  cases cs with
  | nil => simp [readName?] at h
  | cons c cs =>
    simp only [readName?] at h
    split at h
    · obtain ⟨hwhole, hmem, hsome⟩ := backToWordEnd_eq_some h
      have hprefix := List.prefix_iff_eq_append.mp (List.takeWhile_prefix isNameChar (l := c :: cs))
      rw [List.reverse_reverse, hprefix] at hwhole
      refine ⟨hwhole.symm, fun d hd => ?_, hsome⟩
      exact List.mem_takeWhile_imp (List.mem_reverse.mp (hmem d hd))
    · exact absurd h (by simp)

theorem skipGap_of_head {c : Char} (h : isGap c = false) (cs : List Char) :
    skipGap (c :: cs) = c :: cs :=
  List.dropWhile_cons_of_neg (by simp [h])

theorem readSpecifier?_eq_none {c : Char} (h : followsName c = false) (cs : List Char) :
    readSpecifier? (c :: cs) = none := by
  simp only [followsName, List.contains_cons, List.contains_nil, Bool.or_eq_false_iff,
    beq_eq_false_iff_ne, Bool.or_false] at h
  obtain ⟨-, -, -, -, -, hequal, htilde, hbang, hless, hmore⟩ := h
  simp [readSpecifier?, comparisons, Ne.symm hequal, Ne.symm htilde, Ne.symm hbang,
    Ne.symm hless, Ne.symm hmore]

/-- What is read behind name and extras begins with a sign. -/
theorem readDetails?_eq_none {c : Char} (h : followsName c = false) (cs : List Char) :
    readDetails? (c :: cs) = none := by
  have hsigns := h
  simp only [followsName, List.contains_cons, List.contains_nil, Bool.or_eq_false_iff,
    beq_eq_false_iff_ne, Bool.or_false] at hsigns
  obtain ⟨hgap, -, hat, hparen, hsemicolon, -⟩ := hsigns
  have hskip : skipGap (c :: cs) = c :: cs := skipGap_of_head hgap cs
  have hspecifiers : readSpecifierList? (c :: cs) = some ([], c :: cs) := by
    unfold readSpecifierList?
    split
    · rename_i heq
      exact absurd (List.cons.inj heq).1 hparen
    · simp [hskip, readSpecifiers, readSpecifier?_eq_none h]
  have hmarker : skipMarker? (c :: cs) = none := by
    unfold skipMarker?
    split
    · rename_i heq
      exact absurd (List.cons.inj heq).1 hsemicolon
    · rfl
  unfold readDetails?
  split
  · rename_i heq
    exact absurd (List.cons.inj heq).1 hat
  · simp [hspecifiers, hskip, hmarker]

/-- The name of a requirement is read first, and what is read behind it can follow a name. -/
theorem name?_eq_some {s name : String} (h : Requirement.name? s = some name) :
    ∃ rest, readName? (skipGap s.toList) = some (name.toList, rest) ∧ Follows rest := by
  simp only [Requirement.name?, Option.bind_eq_bind, Option.bind_eq_some_iff] at h
  obtain ⟨⟨taken, rest⟩, htaken, extras, hextras, details, hdetails, hname⟩ := h
  obtain rfl := Option.some.inj (Option.ite_none_right_eq_some.mp hname).2
  refine ⟨rest, by rw [htaken, String.toList_ofList], fun c hc => ?_⟩
  cases rest with
  | nil => simp at hc
  | cons d more =>
    obtain rfl : d = c := by simpa using hc
    by_contra hfollows
    have hnot : followsName d = false := by simpa using hfollows
    have hgap : isGap d = false := isGap_of_followsName hnot
    have hbracket : d ≠ '[' := by rintro rfl; exact absurd hnot (by decide)
    have hskip : skipGap (d :: more) = d :: more := skipGap_of_head hgap more
    have hnone : skipExtras? (d :: more) = some (d :: more) := by
      unfold skipExtras?
      split
      · rename_i heq
        exact absurd (List.cons.inj heq).1 hbracket
      · rfl
    rw [hskip, hnone] at hextras
    obtain rfl := Option.some.inj hextras
    rw [hskip, readDetails?_eq_none hnot] at hdetails
    exact absurd hdetails (by simp)

/-! ### Names spelled otherwise -/

/-- Up to the first character that ends names. -/
theorem takeWhile_append_follows {name rest : List Char}
    (hname : ∀ c ∈ name, followsName c = false) (hrest : Follows rest) :
    (name ++ rest).takeWhile (fun c => !followsName c) = name := by
  rw [List.takeWhile_append_of_pos fun c hc => by simp [hname c hc]]
  cases rest with
  | nil => simp
  | cons c rest => simp [hrest c rfl]

/-- A requirement in which the name is spelled otherwise, and which is still well-formed. -/
def Respelled (s s' : String) : Prop :=
  ∃ gap name name' rest : String, s = gap ++ name ++ rest ∧ s' = gap ++ name' ++ rest ∧
    (∀ c ∈ gap.toList, isGap c = true) ∧ Requirement.name? s = some name ∧
    Kind.pypi.SameName name name' ∧ ∃ found, Requirement.name? s' = some found

theorem skipGap_gap_append {gap name rest : List Char} (hgap : ∀ c ∈ gap, isGap c = true)
    (hname : ∀ c ∈ name, followsName c = false) (hsome : name ≠ []) :
    skipGap (gap ++ name ++ rest) = name ++ rest := by
  obtain ⟨c, cs, rfl⟩ := List.exists_cons_of_ne_nil hsome
  have hc : isGap c = false := isGap_of_followsName (hname c (List.mem_cons_self ..))
  rw [List.append_assoc, skipGap, List.dropWhile_append_of_pos hgap]
  exact skipGap_of_head hc _

/-- A requirement whose name is spelled otherwise is read with the new spelling. -/
theorem Respelled.names {s s' : String} (h : Respelled s s') :
    ∃ name name', Requirement.name? s = some name ∧ Requirement.name? s' = some name' ∧
      Kind.pypi.SameName name name' := by
  obtain ⟨gap, name, name', rest, rfl, rfl, hgap, hread, hsame, found, hread'⟩ := h
  obtain ⟨behind, htaken, hbehind⟩ := name?_eq_some hread
  obtain ⟨behind', htaken', hbehind'⟩ := name?_eq_some hread'
  obtain ⟨hwhole, hchars, hsome⟩ := readName?_eq_some htaken
  obtain ⟨hwhole', hchars', -⟩ := readName?_eq_some htaken'
  have hplain : ∀ c ∈ name.toList, followsName c = false := fun c hc =>
    (followsName_of_isNameChar (hchars c hc)).1
  have hplain' : ∀ c ∈ name'.toList, followsName c = false := fun c hc =>
    followsName_eq_false_of_sameName hchars hsame hc
  have hfound : ∀ c ∈ found.toList, followsName c = false := fun c hc =>
    (followsName_of_isNameChar (hchars' c hc)).1
  rw [String.toList_append, String.toList_append, skipGap_gap_append hgap hplain hsome] at hwhole
  rw [String.toList_append, String.toList_append,
    skipGap_gap_append hgap hplain' (toList_ne_nil_of_sameName hsome hsame)] at hwhole'
  -- The same follows the name in both, so both names end where they did.
  obtain rfl : rest.toList = behind := List.append_cancel_left hwhole
  have hname : name'.toList = found.toList := by
    rw [← takeWhile_append_follows hplain' hbehind, hwhole',
      takeWhile_append_follows hfound hbehind']
  obtain rfl : name' = found := String.toList_inj.mp hname
  exact ⟨name, name', hread, hread', hsame⟩

end Requirement

end PinLedger

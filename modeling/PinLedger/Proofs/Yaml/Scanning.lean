/-
# Faults that are met while a text is read

Reading goes on in one text: no step goes back, and none changes what is still to come. A step that
ends in a fault has met the fault of the file, finds that the text is not well-formed, or stands
before a number in the text that is too great.

Key definitions: `Cursor.Follows`, `Shows`, `Cursor.Explains`, `Keeps`.
Key theorems: `Keeps.bind`, `Token.keeps_readVersionNumber`, `Token.keepsFrom_readEscape`,
`Token.keeps_readPlain`, `Token.keeps_readQuoted`, `Token.keeps_readBlock`.
-/
import Mathlib.Data.List.TakeWhile
import PinLedger.Proofs.Outcome
import PinLedger.Yaml.Node

namespace PinLedger.Yaml

open Reading (malformed require)

/-! ### Explained faults -/

/-- A text shows a fault of a number that stands in it: that of a character is greater than any, or
that of a version has too many digits. -/
inductive Shows (cs : List Char) : Fault → Prop
  | escape {letter : Char} {ds : List Char} (h : '\\' :: letter :: ds <:+: cs)
    (hletter : Token.codeLength? letter = some ds.length)
    (hcode : Token.maxCode < Number.ofDigits 16 ds) :
    Shows cs (Token.codeFault (Number.ofDigits 16 ds))
  | version {ds : List Char} (h : ds <:+: cs) (hdigits : ∀ d ∈ ds, Number.isDigit d = true)
    (hlong : Number.writtenDigits < ds.length) : Shows cs .outOfRange

theorem Shows.mono {cs cs' : List Char} {fault : Fault} (h : Shows cs fault) (hcs : cs <:+: cs') :
    Shows cs' fault := by
  cases h with
  | escape h hletter hcode => exact .escape (h.trans hcs) hletter hcode
  | version h hdigits hlong => exact .version (h.trans hcs) hdigits hlong

namespace Cursor

/-- A place further on in a text. -/
structure Follows (c' c : Cursor) : Prop where
  rest : c'.rest <:+ c.rest
  fault : c'.fault = c.fault

theorem Follows.refl (c : Cursor) : Follows c c := ⟨List.suffix_refl _, rfl⟩

theorem Follows.trans {c c' c'' : Cursor} (h : Follows c'' c') (h' : Follows c' c) :
    Follows c'' c := ⟨h.rest.trans h'.rest, h.fault.trans h'.fault⟩

/-- A fault that may be met at a place: the text is not well-formed, has a fault of its own, or
shows it. -/
def Explains (c : Cursor) (fault : Fault) : Prop :=
  fault = .malformed ∨ c.fault = some fault ∨ Shows c.rest fault

theorem Explains.of_follows {c c' : Cursor} {fault : Fault} (h : Explains c' fault)
    (hc : Follows c' c) : Explains c fault :=
  h.imp_right (.imp (hc.fault ▸ ·) (·.mono hc.rest.isInfix))

theorem follows_next (c : Cursor) : Follows c.next c := by
  unfold next
  split
  · exact .refl c
  · next d more h =>
    have hrest : more <:+ c.rest := h ▸ List.suffix_cons d more
    split
    · exact ⟨hrest, rfl⟩
    · split
      · exact ⟨hrest, rfl⟩
      · exact ⟨hrest, rfl⟩

theorem follows_after (c : Cursor) (n : Nat) : Follows (c.after n) c := by
  induction n generalizing c with
  | zero => exact .refl c
  | succ n ih => exact (ih c.next).trans (follows_next c)

end Cursor

/-! ### Steps that keep to the text -/

/-- Steps from a state lead to a place of the text behind `o`, or to a fault that `o` explains. -/
def KeepsFrom {σ α : Type} (view : σ → Cursor) (o : Cursor) (s : σ) (m : Reading σ α) : Prop :=
  match m s with
  | .ok (_, s') => (view s').Follows o
  | .error fault => o.Explains fault

/-- Steps keep to the text wherever they begin. -/
def Keeps {σ α : Type} (view : σ → Cursor) (m : Reading σ α) : Prop :=
  ∀ s, KeepsFrom view (view s) s m

section

variable {σ τ α β : Type} {view : σ → Cursor} {o : Cursor} {s : σ}

theorem KeepsFrom.follows {s' : σ} {a : α} {m : Reading σ α} (h : KeepsFrom view o s m)
    (hm : m s = .ok (a, s')) : (view s').Follows o := by
  unfold KeepsFrom at h
  rwa [hm] at h

theorem KeepsFrom.explains {fault : Fault} {m : Reading σ α} (h : KeepsFrom view o s m)
    (hm : m s = .error fault) : o.Explains fault := by
  unfold KeepsFrom at h
  rwa [hm] at h

theorem Keeps.from {m : Reading σ α} (h : Keeps view m) (ho : (view s).Follows o) :
    KeepsFrom view o s m := by
  unfold KeepsFrom
  cases hm : m s with
  | error fault => exact ((h s).explains hm).of_follows ho
  | ok p => exact ((h s).follows hm).trans ho

theorem KeepsFrom.bind {m : Reading σ α} {f : α → Reading σ β} (h : KeepsFrom view o s m)
    (hf : ∀ a s', m s = .ok (a, s') → (view s').Follows o → KeepsFrom view o s' (f a)) :
    KeepsFrom view o s (m >>= f) := by
  have heq : (m >>= f) s = (m s >>= fun p => f p.1 p.2) := rfl
  unfold KeepsFrom
  rw [heq]
  cases hm : m s with
  | error fault => exact h.explains hm
  | ok p => exact hf p.1 p.2 hm (h.follows hm)

theorem Keeps.bind {m : Reading σ α} {f : α → Reading σ β} (h : Keeps view m)
    (hf : ∀ a, Keeps view (f a)) : Keeps view (m >>= f) :=
  fun s => (h s).bind fun a _ _ hs' => (hf a).from hs'

theorem keeps_pure (a : α) : Keeps view (pure a : Reading σ α) :=
  fun s => Cursor.Follows.refl (view s)

theorem keeps_malformed : Keeps view (malformed : Reading σ α) := fun _ => Or.inl rfl

theorem keeps_require (b : Bool) : Keeps view (require b : Reading σ Unit) := by
  unfold require
  split
  · exact keeps_pure ()
  · exact keeps_malformed

theorem keeps_get : Keeps view (get : Reading σ σ) := fun s => Cursor.Follows.refl (view s)

theorem keeps_modify {f : σ → σ} (hf : ∀ s, (view (f s)).Follows (view s)) :
    Keeps view (modify f : Reading σ Unit) := hf

/-- Steps that do not touch the text. -/
theorem keeps_modify_of_eq {f : σ → σ} (hf : ∀ s, view (f s) = view s) :
    Keeps view (modify f : Reading σ Unit) :=
  keeps_modify fun s => hf s ▸ Cursor.Follows.refl (view s)

theorem Keeps.within {part : σ → τ} {put : τ → σ → σ} {view' : τ → Cursor} {m : Reading τ α}
    (h : Keeps view' m) (hpart : ∀ s, view' (part s) = view s)
    (hput : ∀ t s, view (put t s) = view' t) : Keeps view (m.within part put) := by
  intro s
  have hs := h (part s)
  have heq : m.within part put s = (m (part s) >>= fun p => .ok (p.1, put p.2 s)) := rfl
  unfold KeepsFrom
  rw [heq, ← hpart]
  cases hm : m (part s) with
  | error fault => exact hs.explains hm
  | ok p =>
    change (view (put p.2 s)).Follows (view' (part s))
    rw [hput]
    exact hs.follows hm

end

/-! ### Single characters -/

/-- Steps that read a text keep to it. -/
abbrev KeepsText {α : Type} (m : Scan α) : Prop := Keeps id m

theorem peek_eq_ok {n : Nat} {c c' : Cursor} {d : Option Char} (h : Scan.peek n c = .ok (d, c')) :
    d = c.rest[n]? ∧ c' = c := by
  unfold Scan.peek at h
  split at h
  · cases h
  · cases h
    exact ⟨rfl, rfl⟩

theorem keeps_peek (n : Nat) : KeepsText (Scan.peek n) := by
  intro c
  unfold KeepsFrom Scan.peek
  cases c.rest[n]? with
  | some d => exact .refl c
  | none =>
    cases h : c.fault with
    | none => exact .refl c
    | some fault => exact .inr (.inl h)

theorem Cursor.next_rest (c : Cursor) : c.next.rest = c.rest.tail := by
  unfold Cursor.next
  split
  · next h => rw [h, List.tail_nil]
  · next h =>
    rw [h, List.tail_cons]
    split
    · rfl
    · split <;> rfl

theorem Cursor.after_rest (c : Cursor) (n : Nat) : (c.after n).rest = c.rest.drop n := by
  induction n generalizing c with
  | zero => rfl
  | succ n ih => rw [Cursor.after, ih, next_rest, List.drop_tail]

theorem Cursor.rest_eq_cons {c : Cursor} {d : Char} (h : c.rest[0]? = some d) :
    c.rest = d :: (c.after 1).rest := by
  rw [after_rest, List.drop_one]
  exact (List.cons_head?_tail (List.head?_eq_getElem? ▸ h)).symm

theorem skip_eq_ok {n : Nat} {c c' : Cursor} {a : Unit} (h : Scan.skip n c = .ok (a, c')) :
    c' = c.after n := by
  obtain ⟨⟨d, s⟩, hpeek, hs⟩ := Outcome.bind_eq_ok_iff.mp h
  obtain ⟨-, rfl⟩ := peek_eq_ok hpeek
  cases hs
  rfl

theorem keeps_isAt (d : Char) : KeepsText (Scan.isAt d) := (keeps_peek 0).bind fun _ => keeps_pure _

theorem keeps_skip (n : Nat) : KeepsText (Scan.skip n) :=
  (keeps_peek n).bind fun _ => keeps_modify fun c => c.follows_after n

theorem keeps_takeWhile (p : Char → Bool) : KeepsText (Scan.takeWhile p) :=
  keeps_get.bind fun _ => (keeps_skip _).bind fun _ => keeps_pure _

theorem keeps_skipWhile (p : Char → Bool) : KeepsText (Scan.skipWhile p) :=
  (keeps_takeWhile p).bind fun _ => keeps_pure ()

theorem keeps_skipLine : KeepsText Scan.skipLine := keeps_skipWhile _

theorem keeps_atBreak : KeepsText Scan.atBreak := (keeps_peek 0).bind fun _ => keeps_pure _

theorem keeps_readBreak : KeepsText Scan.readBreak := by
  refine (keeps_peek 0).bind fun d => ?_
  split
  · exact keeps_pure _
  · split
    · exact (keeps_skip 1).bind fun _ => keeps_pure _
    · split
      · exact (keeps_peek 1).bind fun _ => (keeps_skip _).bind fun _ => keeps_pure _
      · exact keeps_pure _

theorem keeps_atDocumentMark : KeepsText Scan.atDocumentMark := by
  refine (keeps_peek 2).bind fun _ => keeps_get.bind fun c => ?_
  dsimp only
  split
  · exact (keeps_peek 3).bind fun _ => keeps_pure _
  · exact keeps_pure _

theorem keeps_skipComment : KeepsText Scan.skipComment := by
  refine (keeps_skipWhile _).bind fun _ => (keeps_isAt '#').bind fun _ => ?_
  split
  · exact keeps_skipLine
  · exact keeps_pure _

namespace Token

/-! ### Names, tags and directives -/

theorem keeps_readAnchor : KeepsText readAnchor :=
  (keeps_skip 1).bind fun _ => (keeps_takeWhile _).bind fun _ => (keeps_require _).bind fun _ =>
    (keeps_peek 0).bind fun _ => (keeps_require _).bind fun _ => keeps_pure _

theorem keeps_readHandle : KeepsText readHandle := by
  refine (keeps_isAt _).bind fun _ => (keeps_require _).bind fun _ => (keeps_skip 1).bind fun _ =>
    (keeps_isAt _).bind fun _ => ?_
  split
  · exact keeps_pure _
  · exact (keeps_takeWhile _).bind fun _ => (keeps_isAt _).bind fun _ =>
      (keeps_require _).bind fun _ => (keeps_skip 1).bind fun _ => keeps_pure _

theorem keeps_hexDigit (n : Nat) : KeepsText (hexDigit n) := by
  refine (keeps_peek n).bind fun d => ?_
  split
  · split
    · exact keeps_pure _
    · exact keeps_malformed
  · exact keeps_malformed

theorem keeps_hexDigits (length n : Nat) : KeepsText (hexDigits length n) := by
  induction length generalizing n with
  | zero => exact keeps_pure _
  | succ length ih =>
    exact (keeps_hexDigit n).bind fun _ => (ih (n + 1)).bind fun _ => keeps_pure _

theorem keeps_readUriOctets (fuel : Nat) : KeepsText (readUriOctets fuel) := by
  induction fuel with
  | zero => exact keeps_malformed
  | succ fuel ih =>
    refine (keeps_isAt '%').bind fun _ => ?_
    split
    · exact (keeps_skip 1).bind fun _ => (keeps_hexDigits 2 0).bind fun _ =>
        (keeps_skip 2).bind fun _ => ih.bind fun _ => keeps_pure _
    · exact keeps_pure _

theorem keeps_readUriChars (fuel : Nat) : KeepsText (readUriChars fuel) := by
  induction fuel with
  | zero => exact keeps_malformed
  | succ fuel ih =>
    refine (keeps_takeWhile _).bind fun _ => (keeps_isAt '%').bind fun _ => ?_
    split
    · refine keeps_get.bind fun _ => (keeps_readUriOctets _).bind fun _ => ?_
      split
      · exact ih.bind fun _ => keeps_pure _
      · exact keeps_malformed
    · exact keeps_pure _

theorem keeps_readUri : KeepsText readUri :=
  keeps_get.bind fun _ => keeps_get.bind fun _ => (keeps_readUriChars _).bind fun _ =>
    keeps_get.bind fun _ => (keeps_require _).bind fun _ => keeps_pure _

theorem keeps_hasHandle : KeepsText hasHandle :=
  keeps_get.bind fun _ => (keeps_peek _).bind fun _ => keeps_pure _

theorem keeps_readTagBody : KeepsText readTagBody := by
  refine (keeps_peek 1).bind fun next => ?_
  split
  · exact (keeps_skip 2).bind fun _ => keeps_readUri.bind fun _ => (keeps_isAt _).bind fun _ =>
      (keeps_require _).bind fun _ => (keeps_skip 1).bind fun _ => keeps_pure _
  · split
    · exact (keeps_skip 1).bind fun _ => keeps_pure _
    · refine keeps_hasHandle.bind fun _ => ?_
      split
      · exact keeps_readHandle.bind fun _ => keeps_readUri.bind fun _ => keeps_pure _
      · exact (keeps_skip 1).bind fun _ => keeps_readUri.bind fun _ => keeps_pure _

theorem keeps_readTag : KeepsText readTag :=
  keeps_readTagBody.bind fun _ => (keeps_peek 0).bind fun _ => (keeps_require _).bind fun _ =>
    keeps_pure _

theorem keeps_skipRestOfLine : KeepsText skipRestOfLine :=
  keeps_skipComment.bind fun _ => (keeps_peek 0).bind fun _ => (keeps_require _).bind fun _ =>
    keeps_readBreak.bind fun _ => keeps_pure _

theorem keepsFrom_versionOf {o c : Cursor} {ds : List Char} (ho : c.Follows o)
    (h : ds <:+: o.rest) (hdigits : ∀ d ∈ ds, Number.isDigit d = true) :
    KeepsFrom id o c (versionOf ds) := by
  unfold versionOf
  split
  · next hlong => exact .inr (.inr (.version h hdigits hlong))
  · exact ho

/-- The number of a version that is too long stands in the text. -/
theorem keeps_readVersionNumber : KeepsText readVersionNumber := by
  intro c
  refine (keeps_get c).bind fun ds s hget _ => ?_
  obtain ⟨rfl, rfl⟩ := Prod.mk.inj (Except.ok.inj hget)
  refine (keeps_peek _ _).bind fun _ s hpeek _ => ?_
  obtain ⟨-, rfl⟩ := peek_eq_ok hpeek
  refine (keeps_require _ _).bind fun _ s hrequire hs => ?_
  refine (keepsFrom_versionOf hs (List.takeWhile_prefix _).isInfix
    fun d => List.mem_takeWhile_imp).bind fun n s _ hs => ?_
  exact ((keeps_skip _).bind fun _ => keeps_pure n).from hs

theorem keeps_readVersion : KeepsText readVersion :=
  (keeps_skipWhile _).bind fun _ => keeps_readVersionNumber.bind fun _ =>
    (keeps_isAt _).bind fun _ => (keeps_require _).bind fun _ => (keeps_skip 1).bind fun _ =>
      keeps_readVersionNumber.bind fun _ => (keeps_peek 0).bind fun _ =>
        (keeps_require _).bind fun _ => keeps_pure _

theorem keeps_readMeaning : KeepsText readMeaning :=
  (keeps_skipWhile _).bind fun _ => keeps_readHandle.bind fun _ => (keeps_isAt _).bind fun _ =>
    (keeps_require _).bind fun _ => (keeps_skipWhile _).bind fun _ => keeps_readUri.bind fun _ =>
      (keeps_peek 0).bind fun _ => (keeps_require _).bind fun _ => keeps_pure _

theorem keeps_readDirectiveBody (name : String) : KeepsText (readDirectiveBody name) := by
  unfold readDirectiveBody
  split
  · exact keeps_readVersion
  · split
    · exact keeps_readMeaning
    · exact keeps_skipLine.bind fun _ => keeps_pure _

theorem keeps_readDirective : KeepsText readDirective :=
  (keeps_skip 1).bind fun _ => (keeps_takeWhile _).bind fun _ => (keeps_peek 0).bind fun _ =>
    (keeps_require _).bind fun _ => (keeps_readDirectiveBody _).bind fun _ =>
      keeps_skipRestOfLine.bind fun _ => keeps_pure _

/-! ### Scalars -/

theorem keeps_readPlainWord (inFlow : Bool) : KeepsText (readPlainWord inFlow) := by
  refine (keeps_isAt '#').bind fun _ => ?_
  split
  · exact keeps_pure _
  · exact keeps_get.bind fun _ => (keeps_peek _).bind fun _ => (keeps_peek _).bind fun _ =>
      (keeps_skip _).bind fun _ => keeps_pure _

theorem keeps_plainBreaks (fuel : Nat) : KeepsText (plainBreaks fuel) := by
  induction fuel with
  | zero => exact keeps_malformed
  | succ fuel ih =>
    refine (keeps_isAt ' ').bind fun _ => ?_
    split
    · exact (keeps_skip 1).bind fun _ => ih
    · refine keeps_atBreak.bind fun _ => ?_
      split
      · refine keeps_readBreak.bind fun _ => keeps_atDocumentMark.bind fun _ => ?_
        split
        · exact keeps_pure _
        · exact ih.bind fun _ => keeps_pure _
      · exact keeps_pure _

theorem keeps_readPlainGap : KeepsText readPlainGap := by
  refine (keeps_takeWhile _).bind fun _ => keeps_atBreak.bind fun _ => ?_
  split
  · refine keeps_readBreak.bind fun _ => keeps_atDocumentMark.bind fun _ => ?_
    split
    · exact keeps_pure _
    · refine keeps_get.bind fun _ => (keeps_plainBreaks _).bind fun _ => ?_
      split
      · exact keeps_pure _
      · exact keeps_pure _
  · exact keeps_pure _

theorem keeps_readPlain (inFlow : Bool) (indent : Int) (fuel : Nat) (gap : List Char)
    (newLine : Bool) : KeepsText (readPlain inFlow indent fuel gap newLine) := by
  induction fuel generalizing gap newLine with
  | zero => exact keeps_malformed
  | succ fuel ih =>
    refine (keeps_readPlainWord inFlow).bind fun _ => ?_
    split
    · exact keeps_pure _
    · refine keeps_readPlainGap.bind fun g => (keeps_isAt '#').bind fun _ =>
        keeps_get.bind fun _ => ?_
      split
      · exact keeps_pure _
      · exact (ih g.chars g.newLine).bind fun _ => keeps_pure _

theorem keeps_quotedBreaks (fuel : Nat) : KeepsText (quotedBreaks fuel) := by
  induction fuel with
  | zero => exact keeps_malformed
  | succ fuel ih =>
    refine keeps_atDocumentMark.bind fun _ => (keeps_require _).bind fun _ =>
      (keeps_skipWhile _).bind fun _ => keeps_atBreak.bind fun _ => ?_
    split
    · exact keeps_readBreak.bind fun _ => ih.bind fun _ => keeps_pure _
    · exact keeps_pure _

theorem hexDigit_eq_ok {n : Nat} {c c' : Cursor} {d : Char} (h : hexDigit n c = .ok (d, c')) :
    c.rest[n]? = some d ∧ c' = c := by
  obtain ⟨⟨d', s⟩, hpeek, hs⟩ := Outcome.bind_eq_ok_iff.mp h
  obtain ⟨hd, rfl⟩ := peek_eq_ok hpeek
  cases d' with
  | none => cases hs
  | some e =>
    dsimp only at hs
    split at hs
    · cases hs
      exact ⟨hd.symm, rfl⟩
    · cases hs

/-- The digits of a number stand in front. -/
theorem hexDigits_eq_ok {length n : Nat} {c c' : Cursor} {ds : List Char}
    (h : hexDigits length n c = .ok (ds, c')) :
    ds.length = length ∧ ds <+: c.rest.drop n ∧ c' = c := by
  induction length generalizing n ds c' with
  | zero =>
    cases h
    exact ⟨rfl, List.nil_prefix, rfl⟩
  | succ length ih =>
    obtain ⟨⟨d, s⟩, hd, hrest⟩ := Outcome.bind_eq_ok_iff.mp h
    obtain ⟨hat, rfl⟩ := hexDigit_eq_ok hd
    obtain ⟨⟨ds, s⟩, hds, hpure⟩ := Outcome.bind_eq_ok_iff.mp hrest
    obtain ⟨hlength, hprefix, rfl⟩ := ih hds
    cases hpure
    refine ⟨congrArg (· + 1) hlength, ?_, rfl⟩
    rw [List.drop_eq_getElem?_toList_append, hat]
    exact List.cons_prefix_cons.mpr ⟨rfl, hprefix⟩

theorem keepsFrom_charOfCode {o c : Cursor} {letter : Char} {ds : List Char} (ho : c.Follows o)
    (h : '\\' :: letter :: ds <:+: o.rest) (hletter : codeLength? letter = some ds.length) :
    KeepsFrom id o c (charOfCode (Number.ofDigits 16 ds)) := by
  unfold charOfCode
  split
  · next hcode => exact .inr (.inr (.escape h hletter hcode))
  · exact ho

/-- The number of a character that there is none of stands in the text, behind a backslash and a
letter. -/
theorem keepsFrom_readEscape {c : Cursor} (hc : c.rest[0]? = some '\\') :
    KeepsFrom id c c readEscape := by
  refine (keeps_skip 1 c).bind fun _ s hskip hs => ?_
  obtain rfl := skip_eq_ok hskip
  refine ((keeps_peek 0).from hs).bind fun d s hpeek hs => ?_
  obtain ⟨hd, rfl⟩ := peek_eq_ok hpeek
  cases d with
  | none => exact (keeps_malformed).from hs
  | some letter =>
    dsimp only
    split
    · exact ((keeps_skip 1).bind fun _ => keeps_pure _).from hs
    · next length _ hletter =>
      refine ((keeps_skip 1).from hs).bind fun _ s hskip hs => ?_
      obtain rfl := skip_eq_ok hskip
      have hrest := Cursor.rest_eq_cons hc
      rw [Cursor.rest_eq_cons hd.symm] at hrest
      refine KeepsFrom.bind (m := readCode length) ?_ fun _ _ _ hs => (keeps_pure _).from hs
      refine ((keeps_hexDigits length 0).from hs).bind fun ds s hds hs => ?_
      obtain ⟨hlength, hprefix, rfl⟩ := hexDigits_eq_ok hds
      have hshown : '\\' :: letter :: ds <:+: c.rest := by
        rw [hrest]
        exact (List.prefix_cons_inj _).mpr ((List.prefix_cons_inj _).mpr hprefix) |>.isInfix
      refine (keepsFrom_charOfCode hs hshown (hlength ▸ hletter)).bind fun _ _ _ hs => ?_
      exact ((keeps_skip length).bind fun _ => keeps_pure _).from hs
    · split
      · exact (keeps_readBreak.bind fun _ => keeps_get.bind fun _ => keeps_quotedBreaks _).from hs
      · exact keeps_malformed.from hs

theorem keeps_readQuotedGap : KeepsText readQuotedGap := by
  refine (keeps_takeWhile _).bind fun _ => (keeps_peek 0).bind fun d => ?_
  split
  · exact keeps_malformed
  · split
    · exact keeps_readBreak.bind fun _ => keeps_get.bind fun _ =>
        (keeps_quotedBreaks _).bind fun _ => keeps_pure _
    · exact keeps_pure _

theorem keeps_readQuotedPart (double : Bool) : KeepsText (readQuotedPart double) := by
  intro c
  refine (keeps_peek 0 c).bind fun d s hpeek hs => ?_
  obtain ⟨hd, rfl⟩ := peek_eq_ok hpeek
  cases d with
  | none => exact keeps_malformed.from hs
  | some d =>
    dsimp only
    split
    · next hback =>
      obtain rfl : d = '\\' := by simpa using (Bool.and_eq_true_iff.mp hback).1
      exact (keepsFrom_readEscape hd.symm).bind fun _ _ _ hs => (keeps_pure _).from hs
    · refine Keeps.from ?_ hs
      split
      · refine (keeps_peek 1).bind fun _ => ?_
        split
        · exact (keeps_skip 2).bind fun _ => keeps_pure _
        · exact keeps_pure _
      · split
        · exact keeps_pure _
        · split
          · exact keeps_readQuotedGap.bind fun _ => keeps_pure _
          · split
            · exact (keeps_takeWhile _).bind fun _ => keeps_pure _
            · exact (keeps_skip 1).bind fun _ => keeps_pure _

theorem keeps_readQuoted (double : Bool) (fuel : Nat) : KeepsText (readQuoted double fuel) := by
  induction fuel with
  | zero => exact keeps_malformed
  | succ fuel ih =>
    refine (keeps_readQuotedPart double).bind fun part => ?_
    split
    · exact ih.bind fun _ => keeps_pure _
    · exact (keeps_skip 1).bind fun _ => keeps_pure _

theorem keeps_readChomping? : KeepsText readChomping? := by
  refine (keeps_peek 0).bind fun d => ?_
  split
  · exact (keeps_skip 1).bind fun _ => keeps_pure _
  · exact (keeps_skip 1).bind fun _ => keeps_pure _
  · exact keeps_pure _

theorem keeps_readDepth? : KeepsText readDepth? := by
  refine (keeps_peek 0).bind fun d => ?_
  split
  · split
    · exact keeps_malformed
    · split
      · exact (keeps_skip 1).bind fun _ => keeps_pure _
      · exact keeps_pure _
  · exact keeps_pure _

theorem keeps_readBlockSigns : KeepsText readBlockSigns := by
  refine keeps_readChomping?.bind fun chomping => ?_
  split
  · exact keeps_readDepth?.bind fun _ => keeps_pure _
  · refine keeps_readDepth?.bind fun depth => ?_
    split
    · exact keeps_readChomping?.bind fun _ => keeps_pure _
    · exact keeps_pure _

theorem keeps_blockIndentation (fuel most : Nat) : KeepsText (blockIndentation fuel most) := by
  induction fuel generalizing most with
  | zero => exact keeps_malformed
  | succ fuel ih =>
    refine (keeps_isAt ' ').bind fun _ => ?_
    split
    · exact (keeps_skip 1).bind fun _ => keeps_get.bind fun _ => ih _
    · refine keeps_atBreak.bind fun _ => ?_
      split
      · exact keeps_readBreak.bind fun _ => (ih most).bind fun _ => keeps_pure _
      · exact keeps_pure _

theorem keeps_skipIndent (indent : Nat) : KeepsText (skipIndent indent) :=
  keeps_get.bind fun _ => keeps_skip _

theorem keeps_blockBreaks (indent fuel : Nat) : KeepsText (blockBreaks indent fuel) := by
  induction fuel with
  | zero => exact keeps_malformed
  | succ fuel ih =>
    refine (keeps_skipIndent indent).bind fun _ => keeps_atBreak.bind fun _ => ?_
    split
    · exact keeps_readBreak.bind fun _ => ih.bind fun _ => keeps_pure _
    · exact keeps_pure _

theorem keeps_inBlock (indent : Nat) : KeepsText (inBlock indent) :=
  keeps_get.bind fun _ => (keeps_peek 0).bind fun _ => keeps_pure _

theorem keeps_readBlockLines (folded : Bool) (chomping : Chomping) (indent fuel : Nat)
    (breaks : List Char) : KeepsText (readBlockLines folded chomping indent fuel breaks) := by
  induction fuel generalizing breaks with
  | zero => exact keeps_malformed
  | succ fuel ih =>
    refine (keeps_peek 0).bind fun _ => (keeps_takeWhile _).bind fun _ =>
      keeps_readBreak.bind fun _ => keeps_get.bind fun _ =>
        (keeps_blockBreaks indent _).bind fun bs => (keeps_inBlock indent).bind fun _ => ?_
    split
    · exact (keeps_peek 0).bind fun _ => (ih bs).bind fun _ => keeps_pure _
    · exact keeps_pure _

theorem keeps_readBlockStart (outer : Int) (depth : Option Nat) :
    KeepsText (readBlockStart outer depth) := by
  unfold readBlockStart
  dsimp only
  split
  · exact keeps_get.bind fun _ => (keeps_blockBreaks _ _).bind fun _ => keeps_pure _
  · exact keeps_get.bind fun _ => (keeps_blockIndentation _ _).bind fun _ => keeps_pure _

theorem keeps_readBlock (folded : Bool) (outer : Int) : KeepsText (readBlock folded outer) := by
  refine (keeps_skip 1).bind fun _ => keeps_readBlockSigns.bind fun signs =>
    (keeps_peek 0).bind fun _ => (keeps_require _).bind fun _ => keeps_skipRestOfLine.bind fun _ =>
      (keeps_readBlockStart outer signs.2).bind fun start => (keeps_inBlock start.2).bind fun _ => ?_
  split
  · exact keeps_get.bind fun _ => (keeps_readBlockLines _ _ _ _ _).bind fun _ => keeps_pure _
  · exact keeps_pure _

end Token

end PinLedger.Yaml

/-
# A canonical name is its own canonical form

Bringing a name into the canonical form of its ecosystem a second time changes nothing: a text in
lower case stays as it is, stripping leaves nothing to strip, and once every run of separators is
a single `-` there is no run left. In a canonical pypi name no two separators stand side by side,
and the only one is `-`.

Key theorems: `Name.canonical_canonical`, `Name.separators_pypi`.
-/
import PinLedger.Proofs.Spelling.LowerCase

namespace PinLedger.Name

open Text

/-! ### Runs of separators -/

/-- Joining runs a second time, in the same position, changes nothing. -/
theorem joinRuns_joinRuns (inRun : Bool) (cs : List Char) :
    joinRuns inRun (joinRuns inRun cs) = joinRuns inRun cs := by
  have hdash : isSeparator '-' = true := rfl
  induction cs generalizing inRun with
  | nil => rfl
  | cons c cs ih =>
    by_cases hc : isSeparator c = true
    · cases inRun with
      | true =>
        have hskip : joinRuns true (c :: cs) = joinRuns true cs := by
          rw [joinRuns, if_pos hc]
          rfl
        rw [hskip, ih true]
      | false =>
        have hsign : joinRuns false (c :: cs) = '-' :: joinRuns true cs := by
          rw [joinRuns, if_pos hc]
          rfl
        have hagain : joinRuns false ('-' :: joinRuns true cs) =
            '-' :: joinRuns true (joinRuns true cs) := by
          rw [joinRuns, if_pos hdash]
          rfl
        rw [hsign, hagain, ih true]
    · have hkeep : ∀ ds, joinRuns inRun (c :: ds) = c :: joinRuns false ds := by
        intro ds
        rw [joinRuns, if_neg hc]
      rw [hkeep cs, hkeep (joinRuns false cs), ih false]

/-- The only separator left is `-`. -/
theorem eq_dash_of_mem_joinRuns {inRun : Bool} {cs : List Char} {c : Char}
    (h : c ∈ joinRuns inRun cs) (hc : isSeparator c = true) : c = '-' := by
  induction cs generalizing inRun with
  | nil => exact absurd h List.not_mem_nil
  | cons d cs ih =>
    unfold joinRuns at h
    split at h
    · rcases List.mem_append.mp h with hsign | hrest
      · cases inRun with
        | false => exact List.mem_singleton.mp hsign
        | true => exact absurd hsign List.not_mem_nil
      · exact ih hrest
    · rename_i hd
      rcases List.mem_cons.mp h with rfl | hrest
      · exact absurd hc hd
      · exact ih hrest

/-- Behind a separator no other one is written. -/
theorem isSeparator_head_joinRuns {cs : List Char} {c : Char}
    (h : c ∈ (joinRuns true cs).head?) : isSeparator c = false := by
  induction cs with
  | nil => simp [joinRuns] at h
  | cons d cs ih =>
    unfold joinRuns at h
    split at h
    · exact ih h
    · rename_i hd
      obtain rfl : d = c := by simpa using h
      simpa using hd

theorem not_two_dashes (inRun : Bool) (cs : List Char) :
    ¬ ['-', '-'] <:+: joinRuns inRun cs := by
  induction cs generalizing inRun with
  | nil => simp [joinRuns]
  | cons c cs ih =>
    unfold joinRuns
    split
    · cases inRun with
      | true => exact ih true
      | false =>
        rw [if_neg Bool.false_ne_true, List.singleton_append, List.infix_cons_iff]
        rintro (hstart | hlater)
        · rw [List.cons_prefix_cons] at hstart
          obtain ⟨rest, heq⟩ := hstart.2
          have hfirst : '-' ∈ (joinRuns true cs).head? := by
            rw [← heq]
            rfl
          exact absurd (isSeparator_head_joinRuns hfirst) (by decide)
        · exact ih true hlater
    · rename_i hc
      rw [List.infix_cons_iff]
      rintro (hstart | hlater)
      · rw [List.cons_prefix_cons] at hstart
        obtain ⟨rfl, -⟩ := hstart
        exact hc rfl
      · exact ih false hlater

/-! ### Canonical names -/

/-- What separates the parts of a canonical pypi name: single dashes. -/
theorem separators_pypi (name : String) :
    '_' ∉ (pypi name).toList ∧ '.' ∉ (pypi name).toList ∧
      ¬ ['-', '-'] <:+: (pypi name).toList := by
  rw [toList_pypi]
  refine ⟨fun h => ?_, fun h => ?_, not_two_dashes false _⟩
  · exact absurd (eq_dash_of_mem_joinRuns h rfl) (by decide)
  · exact absurd (eq_dash_of_mem_joinRuns h rfl) (by decide)

/-- The canonical form of a name without slashes is one that a directory can have. -/
theorem plain_pypi {name : String} (hslash : '/' ∉ name.toList) (hname : name ≠ "") :
    '/' ∉ (pypi name).toList ∧ pypi name ≠ "" ∧ pypi name ≠ "." := by
  have hchars : name.toList ≠ [] := fun h => hname (String.toList_eq_nil_iff.mp h)
  refine ⟨fun h => ?_, fun h => ?_, fun h => ?_⟩
  · rw [toList_pypi] at h
    rcases mem_joinRuns h with h | h
    · exact slash_not_mem_lowerAfter hslash h
    · exact absurd h (by decide)
  · have hnil : (pypi name).toList = [] := by
      rw [h]
      rfl
    rw [toList_pypi] at hnil
    exact joinRuns_ne_nil (lowerAfter_ne_nil hchars []) hnil
  · have hdot : '.' ∈ (pypi name).toList := by
      rw [h]
      decide
    exact (separators_pypi name).2.1 hdot

theorem conda_conda (name : String) : conda (conda name) = conda name := by
  rw [conda, conda, strip_lower_strip, lower_lower]

theorem pypi_pypi (name : String) : pypi (pypi name) = pypi name := by
  have hdash : Settled '-' := by decide +kernel
  have hsettled : ∀ c ∈ (pypi name).toList, Settled c := by
    intro c hc
    rw [toList_pypi] at hc
    rcases mem_joinRuns hc with hmem | rfl
    · exact settled_of_mem_lowerAfter hmem
    · exact hdash
  have htwice : (pypi (pypi name)).toList = (pypi name).toList := by
    rw [toList_pypi, lowerAfter_of_settled hsettled, toList_pypi, joinRuns_joinRuns]
  exact String.toList_inj.mp htwice

theorem canonical_canonical (kind : Kind) (name : String) :
    kind.canonical (kind.canonical name) = kind.canonical name := by
  cases kind with
  | conda => exact conda_conda name
  | pypi => exact pypi_pypi name

example : Kind.conda.canonical " ΣΟΦΌΣ " = "σοφός" := by decide +kernel

example : Kind.pypi.canonical "Py_.STRAßE--İ" = "py-straße-i\u0307" := by decide +kernel

end PinLedger.Name

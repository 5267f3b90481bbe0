/-
# Runs in a world that changes

A run makes one call after the other, and between two calls the world may become any other world. A
call is made in the world of its moment, and leaves a memory for the calls behind it. A part of the
memory that is filled once and then kept holds what the first call had to put there (`view_run`).

Key definitions: `Step`, `run`, `moments`.
Key theorems: `run_snd`, `moments_filter`, `keeps_run`, `view_run`.
-/

namespace PinLedger.History

variable {σ κ μ α : Type}

/-- A step of a run: the world becomes another one, or a call is made. -/
inductive Step (σ κ : Type) where
  | change (s : σ)
  | call (c : κ)

/-- The world and the memory after a step; `next` says what a call leaves in the memory. -/
def after (next : σ → κ → μ → μ) (st : σ × μ) : Step σ κ → σ × μ
  | .change s => (s, st.2)
  | .call c => (st.1, next st.1 c st.2)

/-- The world and the memory after some steps. -/
def run (next : σ → κ → μ → μ) (st : σ × μ) (steps : List (Step σ κ)) : σ × μ :=
  steps.foldl (after next) st

/-- The calls of a run, each with the world it is made in. -/
def moments (s : σ) : List (Step σ κ) → List (σ × κ)
  | [] => []
  | .change s' :: steps => moments s' steps
  | .call c :: steps => (s, c) :: moments s steps

variable (next : σ → κ → μ → μ)

/-- The memory is what the calls leave, each in the world of its moment. -/
theorem run_snd (s : σ) (m : μ) (steps : List (Step σ κ)) :
    (run next (s, m) steps).2 = (moments s steps).foldl (fun m p => next p.1 p.2 m) m := by
  induction steps generalizing s m with
  | nil => rfl
  | cons step steps ih =>
    cases step with
    | change s' => exact ih s' m
    | call c => exact ih s (next s c m)

/-- Whether a step is kept if of the calls only some are kept. -/
def Step.keeps (keep : κ → Bool) : Step σ κ → Bool
  | .change _ => true
  | .call c => keep c

/-- The calls that are kept are made in the worlds they were made in. -/
theorem moments_filter (keep : κ → Bool) (s : σ) (steps : List (Step σ κ)) :
    moments s (steps.filter (Step.keeps keep)) =
      (moments s steps).filter fun p => keep p.2 := by
  induction steps generalizing s with
  | nil => rfl
  | cons step steps ih =>
    cases step with
    | change s' => exact ih s'
    | call c =>
      by_cases hc : keep c = true
      · rw [List.filter_cons_of_pos (by simpa [Step.keeps] using hc), moments, moments, ih,
          List.filter_cons_of_pos (by simpa using hc)]
      · rw [List.filter_cons_of_neg (by simpa [Step.keeps] using hc), moments, ih,
          List.filter_cons_of_neg (by simpa using hc)]

/-- What every call keeps holds after a run. -/
theorem keeps_run {next : σ → κ → μ → μ} (keeps : μ → Prop)
    (hkeeps : ∀ s c m, keeps m → keeps (next s c m)) (s : σ) {m : μ} (hm : keeps m)
    (steps : List (Step σ κ)) : keeps (run next (s, m) steps).2 := by
  rw [run_snd]
  induction moments s steps generalizing m with
  | nil => exact hm
  | cons p ps ih => exact ih (hkeeps p.1 p.2 m hm)

/-- A part of the memory that a call fills only if it is empty holds what it held before, or else
what the first call that had something put there. What every call keeps holds after the run, too. -/
theorem view_run {next : σ → κ → μ → μ} (keeps : μ → Prop) (view : μ → Option α)
    (puts : σ × κ → Option α)
    (hkeeps : ∀ s c m, keeps m → keeps (next s c m))
    (hview : ∀ s c m, keeps m → view (next s c m) = (view m).or (puts (s, c)))
    (s : σ) {m : μ} (hm : keeps m) (steps : List (Step σ κ)) :
    keeps (run next (s, m) steps).2 ∧
      view (run next (s, m) steps).2 = (view m).or ((moments s steps).findSome? puts) := by
  rw [run_snd]
  -- The moments are all that matters: between them the memory stays as it is.
  induction moments s steps generalizing m with
  | nil => exact ⟨hm, Option.or_none.symm⟩
  | cons p ps ih =>
    obtain ⟨hlater, hviewed⟩ := ih (hkeeps p.1 p.2 m hm)
    refine ⟨hlater, ?_⟩
    rw [List.foldl_cons, hviewed, hview p.1 p.2 m hm, Option.or_assoc, List.findSome?_cons]
    cases puts p with
    | none => rfl
    | some a => rfl

end PinLedger.History

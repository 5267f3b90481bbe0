/-
# Steps that may fail, one after the other

A run in two steps succeeds if both do, and fails with the first failure. A run over a list succeeds
if every item does, and fails with the first item that fails.

Two runs that are related step by step end alike: both fail in the same way, or both succeed with
related results.

Key definitions: `Related`.
Key theorems: `bind_eq_ok_iff`, `bind_eq_error_iff`, `bind_ne_error`, `mapM_eq_ok_iff`, `exists_mapM_eq_ok_iff`,
`mapM_eq_error_iff`, `Related.bind`, `Related.mapM`.
-/
import Mathlib.Data.List.Forall2

namespace PinLedger.Outcome

variable {ε α β : Type}

@[simp] theorem ok_bind (a : α) (f : α → Except ε β) : Except.ok a >>= f = f a := rfl

@[simp] theorem error_bind (e : ε) (f : α → Except ε β) : Except.error e >>= f = .error e := rfl

theorem bind_eq_ok_iff {x : Except ε α} {f : α → Except ε β} {b : β} :
    x >>= f = .ok b ↔ ∃ a, x = .ok a ∧ f a = .ok b := by
  cases x <;> simp [bind, Except.bind]

theorem bind_eq_error_iff {x : Except ε α} {f : α → Except ε β} {e : ε} :
    x >>= f = .error e ↔ x = .error e ∨ ∃ a, x = .ok a ∧ f a = .error e := by
  cases x <;> simp [bind, Except.bind]

/-- Two runs neither of which fails in one way do not fail so one after the other. -/
theorem bind_ne_error {x : Except ε α} {f : α → Except ε β} {e : ε} (h : x ≠ .error e)
    (hf : ∀ a, f a ≠ .error e) : x >>= f ≠ .error e := by
  intro hbind
  rcases bind_eq_error_iff.mp hbind with hx | ⟨a, -, ha⟩
  · exact h hx
  · exact hf a ha

theorem map_eq_ok_iff {x : Except ε α} {f : α → β} {b : β} :
    f <$> x = .ok b ↔ ∃ a, x = .ok a ∧ f a = b := by
  cases x <;> simp

theorem map_eq_error_iff {x : Except ε α} {f : α → β} {e : ε} :
    f <$> x = .error e ↔ x = .error e := by
  cases x <;> simp [Functor.map, Except.map]

theorem mapError_eq_ok_iff {ε' : Type} {x : Except ε α} {f : ε → ε'} {a : α} :
    x.mapError f = .ok a ↔ x = .ok a := by
  cases x <;> simp [Except.mapError]

theorem mapError_eq_error_iff {ε' : Type} {x : Except ε α} {f : ε → ε'} {e : ε'} :
    x.mapError f = .error e ↔ ∃ e', x = .error e' ∧ f e' = e := by
  cases x <;> simp [Except.mapError]

/-- A run over a list succeeds exactly with the results of its items. -/
theorem mapM_eq_ok_iff {f : α → Except ε β} {xs : List α} {ys : List β} :
    xs.mapM f = .ok ys ↔ List.Forall₂ (fun x y => f x = .ok y) xs ys := by
  induction xs generalizing ys with
  | nil => cases ys <;> simp [pure, Except.pure]
  | cons x xs ih =>
    simp only [List.mapM_cons, bind_eq_ok_iff, ih, pure, Except.pure, Except.ok.injEq,
      List.forall₂_cons_left_iff]
    constructor
    · rintro ⟨y, hy, ys', hys, rfl⟩
      exact ⟨y, ys', hy, hys, rfl⟩
    · rintro ⟨y, ys', hy, hys, rfl⟩
      exact ⟨y, hy, ys', hys, rfl⟩

/-- What is related to a list item by item is related to one of its items. -/
theorem exists_of_mem_right {R : α → β → Prop} {xs : List α} {ys : List β}
    (h : List.Forall₂ R xs ys) {y : β} (hy : y ∈ ys) : ∃ x ∈ xs, R x y := by
  induction h with
  | nil => exact absurd hy List.not_mem_nil
  | cons hxy _ ih =>
    rcases List.mem_cons.mp hy with rfl | hrest
    · exact ⟨_, List.mem_cons_self .., hxy⟩
    · obtain ⟨x, hx, hr⟩ := ih hrest
      exact ⟨x, List.mem_cons_of_mem _ hx, hr⟩

/-- A run over a list succeeds if every item does. -/
theorem exists_mapM_eq_ok_iff {f : α → Except ε β} {xs : List α} :
    (∃ ys, xs.mapM f = .ok ys) ↔ ∀ x ∈ xs, ∃ y, f x = .ok y := by
  induction xs with
  | nil => simp [pure, Except.pure]
  | cons x xs ih =>
    rw [List.forall_mem_cons, ← ih]
    simp only [mapM_eq_ok_iff, List.forall₂_cons_left_iff]
    constructor
    · rintro ⟨_, y, ys, hy, hys, rfl⟩
      exact ⟨⟨y, hy⟩, ys, hys⟩
    · rintro ⟨⟨y, hy⟩, ys, hys⟩
      exact ⟨_, y, ys, hy, hys, rfl⟩

/-- A run over a list fails exactly with the failure of the first item that fails. -/
theorem mapM_eq_error_iff {f : α → Except ε β} {xs : List α} {e : ε} :
    xs.mapM f = .error e ↔ ∃ before x after, xs = before ++ x :: after ∧
      (∀ y ∈ before, ∃ b, f y = .ok b) ∧ f x = .error e := by
  induction xs with
  | nil => simp [pure, Except.pure]
  | cons x xs ih =>
    simp only [List.mapM_cons, bind_eq_error_iff, ih, pure, Except.pure, reduceCtorEq, and_false,
      exists_false, or_false]
    constructor
    · rintro (hx | ⟨b, hx, before, y, after, rfl, hb, hy⟩)
      · exact ⟨[], x, xs, rfl, by simp, hx⟩
      · exact ⟨x :: before, y, after, rfl, List.forall_mem_cons.mpr ⟨⟨b, hx⟩, hb⟩, hy⟩
    · rintro ⟨before, y, after, heq, hb, hy⟩
      cases before with
      | nil =>
        obtain ⟨rfl, rfl⟩ := List.cons.inj heq
        exact Or.inl hy
      | cons z before =>
        obtain ⟨rfl, rfl⟩ := List.cons.inj heq
        obtain ⟨b, hx⟩ := hb x (List.mem_cons_self ..)
        have hbefore : ∀ z ∈ before, ∃ b, f z = .ok b := fun z hz => hb z (List.mem_cons_of_mem _ hz)
        exact Or.inr ⟨b, hx, before, y, after, rfl, hbefore, hy⟩

/-! ### Two runs side by side -/

/-- Two runs fail in the same way, or both succeed with related results. -/
inductive Related {α β : Type} (R : α → β → Prop) : Except ε α → Except ε β → Prop where
  | error (e : ε) : Related R (.error e) (.error e)
  | ok {a : α} {b : β} (h : R a b) : Related R (.ok a) (.ok b)

namespace Related

variable {γ δ : Type} {R : α → β → Prop} {S : γ → δ → Prop} {x : Except ε α} {y : Except ε β}

theorem of_eq {x y : Except ε α} (h : x = y) : Related Eq x y := by
  subst h
  cases x with
  | error e => exact .error e
  | ok a => exact .ok rfl

theorem eq {x y : Except ε α} (h : Related Eq x y) : x = y := by
  cases h with
  | error e => rfl
  | ok h => rw [h]

theorem imp {R' : α → β → Prop} (h : Related R x y) (himp : ∀ a b, R a b → R' a b) :
    Related R' x y := by
  cases h with
  | error e => exact .error e
  | ok hab => exact .ok (himp _ _ hab)

theorem bind {f : α → Except ε γ} {g : β → Except ε δ} (h : Related R x y)
    (hfg : ∀ a b, R a b → Related S (f a) (g b)) : Related S (x >>= f) (y >>= g) := by
  cases h with
  | error e => exact .error e
  | ok hab => exact hfg _ _ hab

/-- A first step in common. -/
theorem bind_self (x : Except ε α) {f : α → Except ε γ} {g : α → Except ε δ}
    (hfg : ∀ a, Related S (f a) (g a)) : Related S (x >>= f) (x >>= g) :=
  (of_eq (x := x) rfl).bind fun a _ hab => hab ▸ hfg a

/-- Two runs with one ending if what comes after the first step ends alike. -/
theorem bind_eq {f : α → Except ε γ} {g : β → Except ε γ} (h : Related R x y)
    (hfg : ∀ a b, R a b → f a = g b) : x >>= f = y >>= g :=
  (h.bind fun a b hab => of_eq (hfg a b hab)).eq

theorem map {f : α → γ} {g : β → δ} (h : Related R x y) (hfg : ∀ a b, R a b → S (f a) (g b)) :
    Related S (f <$> x) (g <$> y) := by
  cases h with
  | error e => exact .error e
  | ok hab => exact .ok (hfg _ _ hab)

theorem mapError {ε' : Type} (f : ε → ε') (h : Related R x y) :
    Related R (x.mapError f) (y.mapError f) := by
  cases h with
  | error e => exact .error (f e)
  | ok hab => exact .ok hab

/-- Two runs over lists whose items end alike. -/
theorem mapM {R : α → γ → Prop} {S : β → δ → Prop} {f : α → Except ε β} {g : γ → Except ε δ}
    {xs : List α} {ys : List γ} (h : List.Forall₂ R xs ys)
    (hfg : ∀ a b, R a b → Related S (f a) (g b)) :
    Related (List.Forall₂ S) (xs.mapM f) (ys.mapM g) := by
  induction h with
  | nil => exact .ok .nil
  | cons hab _ ih =>
    rw [List.mapM_cons, List.mapM_cons]
    refine (hfg _ _ hab).bind fun a b hab => ?_
    exact ih.bind fun as bs hbs => .ok (.cons hab hbs)

theorem mapM_eq {R : α → γ → Prop} {f : α → Except ε β} {g : γ → Except ε β} {xs : List α}
    {ys : List γ} (h : List.Forall₂ R xs ys) (hfg : ∀ a b, R a b → f a = g b) :
    xs.mapM f = ys.mapM g := by
  have hruns := mapM h fun a b hab => of_eq (hfg a b hab)
  rw [List.forall₂_eq_eq_eq] at hruns
  exact hruns.eq

end Related

end PinLedger.Outcome

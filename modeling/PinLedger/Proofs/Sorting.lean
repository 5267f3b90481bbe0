/-
# Sorted lists, ties in their order

A list is sorted by a comparison that may leave ties. What ties with an item stands in the sorted
list as it stood before (`filter_mergeSort`), and that settles the sorted list: no other list is in
order and keeps all ties (`eq_of_sameTies`). So sorting what is kept of a list is keeping it of the
sorted list (`mergeSort_filter`). Names have no ties but repetitions.

Key definitions: `Comparison`, `SameTies`.
Key theorems: `filter_mergeSort`, `eq_of_sameTies`, `mergeSort_filter`, `pairwise_lt_mergeSort`.
-/
import Mathlib.Data.List.Basic
import Mathlib.Order.Lattice

namespace PinLedger.Sorting

variable {α : Type} {le : α → α → Bool} {xs ys : List α}

/-- Any two items can be compared, and so can three in a row. -/
structure Comparison (le : α → α → Bool) : Prop where
  trans : ∀ a b c, le a b = true → le b c = true → le a c = true
  total : ∀ a b, (le a b || le b a) = true

namespace Comparison

theorem refl (h : Comparison le) (a : α) : le a a = true := by
  simpa using h.total a a

/-- Comparing items by a part of them. -/
theorem ofKey {κ : Type} [LinearOrder κ] {key : α → κ}
    (h : ∀ a b, le a b = true ↔ key a ≤ key b) : Comparison le where
  trans a b c hab hbc := (h a c).mpr (((h a b).mp hab).trans ((h b c).mp hbc))
  total a b := by
    rw [Bool.or_eq_true, h, h]
    exact le_total (key a) (key b)

end Comparison

/-- Neither of two items has to stand before the other. -/
def ties (le : α → α → Bool) (a b : α) : Bool := le a b && le b a

theorem ties_iff {a b : α} : ties le a b = true ↔ le a b = true ∧ le b a = true :=
  Bool.and_eq_true_iff

theorem ties_self (h : Comparison le) (a : α) : ties le a a = true :=
  ties_iff.mpr ⟨h.refl a, h.refl a⟩

/-- What ties with an item stands in the same order in both lists. -/
def SameTies (le : α → α → Bool) (xs ys : List α) : Prop :=
  ∀ a, xs.filter (ties le a) = ys.filter (ties le a)

theorem SameTies.mem (h : Comparison le) (hties : SameTies le xs ys) {a : α} (ha : a ∈ xs) :
    a ∈ ys := by
  have hkept : a ∈ xs.filter (ties le a) := List.mem_filter.mpr ⟨ha, ties_self h a⟩
  rw [hties a] at hkept
  exact (List.mem_filter.mp hkept).1

/-- Sorting leaves ties as they are. -/
theorem filter_mergeSort (h : Comparison le) (xs : List α) : SameTies le (xs.mergeSort le) xs := by
  intro a
  have hordered : (xs.filter (ties le a)).Pairwise fun x y => le x y = true := by
    refine List.pairwise_of_forall_mem_list fun x hx y hy => ?_
    have hxa := (ties_iff.mp (List.mem_filter.mp hx).2).2
    have hay := (ties_iff.mp (List.mem_filter.mp hy).2).1
    exact h.trans x a y hxa hay
  have hsub : (xs.filter (ties le a)).Sublist ((xs.mergeSort le).filter (ties le a)) := by
    have hkept := (List.sublist_mergeSort h.trans h.total hordered List.filter_sublist).filter
      (ties le a)
    simpa only [List.filter_filter, Bool.and_self] using hkept
  have hlength := ((List.mergeSort_perm xs le).filter (ties le a)).length_eq
  exact (hsub.eq_of_length hlength.symm).symm

/-- The first of a list in order may stand before all that is in the list. -/
theorem le_of_pairwise_cons (h : Comparison le) {x a : α}
    (hordered : (x :: xs).Pairwise fun x y => le x y = true) (ha : a ∈ x :: xs) :
    le x a = true := by
  rcases List.mem_cons.mp ha with rfl | ha
  · exact h.refl a
  · exact List.rel_of_pairwise_cons hordered ha

/-- Order and ties leave no choice. -/
theorem eq_of_sameTies (h : Comparison le) (hxs : xs.Pairwise fun x y => le x y = true)
    (hys : ys.Pairwise fun x y => le x y = true) (hties : SameTies le xs ys) : xs = ys := by
  have hback : SameTies le ys xs := fun a => (hties a).symm
  induction xs generalizing ys with
  | nil =>
    cases ys with
    | nil => rfl
    | cons y ys => exact absurd (hback.mem h (List.mem_cons_self ..)) List.not_mem_nil
  | cons x xs ih =>
    cases ys with
    | nil => exact absurd (hties.mem h (List.mem_cons_self ..)) List.not_mem_nil
    | cons y ys =>
      -- Each of the two heads is somewhere in the other list, so they tie.
      have hxy : le x y = true :=
        le_of_pairwise_cons h hxs (hback.mem h (List.mem_cons_self ..))
      have hyx : le y x = true :=
        le_of_pairwise_cons h hys (hties.mem h (List.mem_cons_self ..))
      have hhead := hties x
      rw [List.filter_cons_of_pos (ties_self h x),
        List.filter_cons_of_pos (ties_iff.mpr ⟨hxy, hyx⟩)] at hhead
      obtain rfl : x = y := (List.cons.inj hhead).1
      have htail : SameTies le xs ys := fun a => by
        have hboth := hties a
        by_cases ha : ties le a x = true
        · rw [List.filter_cons_of_pos ha, List.filter_cons_of_pos ha] at hboth
          exact (List.cons.inj hboth).2
        · rwa [List.filter_cons_of_neg ha, List.filter_cons_of_neg ha] at hboth
      rw [ih hxs.of_cons hys.of_cons htail fun a => (htail a).symm]

/-- A list that is in order and has the ties of another is the other one sorted. -/
theorem eq_mergeSort (h : Comparison le) (hxs : xs.Pairwise fun x y => le x y = true)
    (hties : SameTies le xs ys) : xs = ys.mergeSort le :=
  eq_of_sameTies h hxs (List.pairwise_mergeSort h.trans h.total ys) fun a =>
    (hties a).trans (filter_mergeSort h ys a).symm

/-- What is kept of a list is sorted as it stands in the sorted list. -/
theorem mergeSort_filter (h : Comparison le) (keep : α → Bool) (xs : List α) :
    (xs.filter keep).mergeSort le = (xs.mergeSort le).filter keep := by
  refine (eq_mergeSort h ((List.pairwise_mergeSort h.trans h.total xs).filter keep) fun a => ?_).symm
  calc ((xs.mergeSort le).filter keep).filter (ties le a)
      = ((xs.mergeSort le).filter (ties le a)).filter keep := List.filter_comm ..
    _ = (xs.filter (ties le a)).filter keep := by rw [filter_mergeSort h xs a]
    _ = (xs.filter keep).filter (ties le a) := List.filter_comm ..

/-- Where only equal items tie, the order a list is given in does not matter. -/
theorem mergeSort_eq_of_perm (h : Comparison le) (hperm : xs.Perm ys)
    (hanti : ∀ x ∈ xs, ∀ y ∈ xs, le x y = true → le y x = true → x = y) :
    xs.mergeSort le = ys.mergeSort le := by
  refine List.Perm.eq_of_pairwise (fun x y hx hy => ?_)
    (List.pairwise_mergeSort h.trans h.total xs) (List.pairwise_mergeSort h.trans h.total ys)
    (((List.mergeSort_perm xs le).trans hperm).trans (List.mergeSort_perm ys le).symm)
  exact hanti x (List.mem_mergeSort.mp hx) y (hperm.mem_iff.mpr (List.mem_mergeSort.mp hy))

/-! ### Names -/

theorem comparison_names : Comparison fun a b : String => decide (a ≤ b) where
  trans a b c := by simpa using String.le_trans
  total a b := by simpa using String.le_total a b

/-- Different names are sorted by their code points. -/
theorem pairwise_lt_mergeSort {names : List String} (h : names.Nodup) :
    (names.mergeSort fun a b => decide (a ≤ b)).Pairwise (· < ·) := by
  have hsorted : (names.mergeSort fun a b => decide (a ≤ b)).Pairwise (· ≤ ·) :=
    (List.pairwise_mergeSort comparison_names.trans comparison_names.total names).imp fun hab => by
      simpa using hab
  have hnodup : (names.mergeSort fun a b => decide (a ≤ b)).Nodup :=
    (List.mergeSort_perm _ _).nodup_iff.mpr h
  exact (hsorted.and hnodup).imp fun hab => Std.lt_of_le_of_ne hab.1 hab.2

end PinLedger.Sorting

/-
# The order of packages

Packages are sorted by a key: the size, the name and the kind; or the kind and the name; or the name
and the kind. Keys are compared part by part, names by their code points. Packages with the same key
stay as they stood. This settles the order completely, so it does not matter whether packages are
filtered before they are sorted or after.

Key definitions: `SortKey.Key`, `SortKey.keyOf`, `SortKey.peers`.
Key theorems: `SortKey.le_iff`, `eq_sortPackages`, `packages_stand_in_order`,
`filters_and_order_commute`.
-/
import Mathlib.Data.List.Lex
import Mathlib.Data.List.Nodup
import Mathlib.Data.Prod.Lex
import Mathlib.Data.String.Basic
import Mathlib.Order.Compare
import PinLedger.Proofs.Listing.Origin
import PinLedger.Proofs.Sorting

namespace PinLedger

open Sorting

/-! ### Keys -/

/-- The code points of a name. -/
def codePoints (name : String) : List ℕ := name.toList.map Char.toNat

/-- What packages are compared by; the part in front decides first. -/
def SortKey.Key : SortKey → Type
  | .size => ℤ ×ₗ List ℕ ×ₗ ℕ
  | .name => List ℕ ×ₗ ℕ
  | .kind => ℕ ×ₗ List ℕ

instance (k : SortKey) : LinearOrder k.Key :=
  match k with
  | .size => inferInstanceAs (LinearOrder (ℤ ×ₗ List ℕ ×ₗ ℕ))
  | .name => inferInstanceAs (LinearOrder (List ℕ ×ₗ ℕ))
  | .kind => inferInstanceAs (LinearOrder (ℕ ×ₗ List ℕ))

/-- The key of a package. An unknown size counts as zero, and conda comes before pypi. -/
def SortKey.keyOf (k : SortKey) (p : Package) : k.Key :=
  match k with
  | .size => toLex (p.size.getD 0, toLex (codePoints p.name, p.kind.rank))
  | .name => toLex (codePoints p.name, p.kind.rank)
  | .kind => toLex (p.kind.rank, codePoints p.name)

theorem map_toNat_lt_iff {cs ds : List Char} :
    cs.map Char.toNat < ds.map Char.toNat ↔ cs < ds := by
  induction cs generalizing ds with
  | nil => cases ds <;> simp
  | cons c cs ih =>
    cases ds with
    | nil => simp
    | cons d ds =>
      rw [List.map_cons, List.map_cons, List.cons_lt_cons_iff, List.cons_lt_cons_iff, ih,
        Char.toNat_inj, Char.lt_def, UInt32.lt_iff_toNat_lt]
      rfl

theorem codePoints_lt_iff {a b : String} : codePoints a < codePoints b ↔ a < b :=
  map_toNat_lt_iff.trans String.lt_iff_toList_lt.symm

theorem codePoints_injective : Function.Injective codePoints := fun _ _ h =>
  String.toList_inj.mp (List.map_injective_iff.mpr (fun _ _ => Char.toNat_inj.mp) h)

/-! ### Comparing by keys -/

/-- What is compared part by part is compared as a pair. -/
theorem compares_then {α β : Type} [LinearOrder α] [LinearOrder β] {o₁ o₂ : Ordering} {a b : α}
    {c d : β} (h₁ : o₁.Compares a b) (h₂ : o₂.Compares c d) :
    (o₁.then o₂).Compares (toLex (a, c)) (toLex (b, d)) := by
  cases o₁ with
  | lt => exact Prod.Lex.toLex_lt_toLex.mpr (.inl h₁)
  | gt => exact Prod.Lex.toLex_lt_toLex.mpr (.inl h₁)
  | eq =>
    obtain rfl : a = b := h₁
    cases o₂ with
    | lt => exact Prod.Lex.toLex_lt_toLex.mpr (.inr ⟨rfl, h₂⟩)
    | gt => exact Prod.Lex.toLex_lt_toLex.mpr (.inr ⟨rfl, h₂⟩)
    | eq => exact congrArg (fun x => toLex (a, x)) h₂

/-- Comparing ends as comparing other things ends if these are ordered alike. -/
theorem compares_of_lt_iff {α β : Type} [LinearOrder α] [LinearOrder β] {f : α → β}
    (hlt : ∀ a b, f a < f b ↔ a < b) {o : Ordering} {a b : α} (h : o.Compares a b) :
    o.Compares (f a) (f b) := by
  cases o with
  | lt => exact (hlt a b).mpr h
  | gt => exact (hlt b a).mpr h
  | eq => exact congrArg f h

theorem compares_compare {α : Type} [LinearOrder α] (a b : α) : (compare a b).Compares a b :=
  (compare_iff a b).mp rfl

section Compare

variable (k : SortKey) (p q : Package)

theorem compares_names : (compareNames p q).Compares (codePoints p.name) (codePoints q.name) :=
  compares_of_lt_iff (fun _ _ => codePoints_lt_iff) (compares_compare p.name q.name)

theorem compares_kinds : (compareKinds p q).Compares p.kind.rank q.kind.rank :=
  compares_compare p.kind.rank q.kind.rank

theorem compares_sizes : (compareSizes p q).Compares (p.size.getD 0) (q.size.getD 0) :=
  compares_compare (p.size.getD 0) (q.size.getD 0)

/-- Packages are compared as their keys are. -/
theorem SortKey.compares_keys : (k.compare p q).Compares (k.keyOf p) (k.keyOf q) := by
  have hname := compares_names p q
  have hkind := compares_kinds p q
  cases k with
  | size => exact compares_then (compares_sizes p q) (compares_then hname hkind)
  | name => exact compares_then hname hkind
  | kind => exact compares_then hkind hname

theorem SortKey.le_iff : k.le p q = true ↔ k.keyOf p ≤ k.keyOf q := by
  rw [← (k.compares_keys p q).ne_gt, SortKey.le]
  cases k.compare p q <;> decide

end Compare

variable (k : SortKey)

theorem SortKey.comparison : Comparison k.le := .ofKey k.le_iff

/-- Packages tie if they have the same key. -/
theorem SortKey.ties_eq (p : Package) : ties k.le p = fun q => decide (k.keyOf q = k.keyOf p) := by
  funext q
  rw [Bool.eq_iff_iff, ties_iff, k.le_iff, k.le_iff, decide_eq_true_iff]
  exact ⟨fun h => le_antisymm h.2 h.1, fun h => ⟨h.ge, h.le⟩⟩

/-! ### The sorted list -/

/-- The packages of a list with the key of a package, in their order. -/
def SortKey.peers (p : Package) (ps : List Package) : List Package :=
  ps.filter fun q => k.keyOf q = k.keyOf p

theorem SortKey.sameTies_iff {ps qs : List Package} :
    SameTies k.le qs ps ↔ ∀ p, k.peers p qs = k.peers p ps := by
  unfold SameTies peers
  simp only [k.ties_eq]

theorem SortKey.pairwise_le_iff {ps : List Package} :
    ps.Pairwise (fun p q => k.le p q = true) ↔ ps.Pairwise fun p q => k.keyOf p ≤ k.keyOf q := by
  simp only [k.le_iff]

theorem pairwise_sortPackages (ps : List Package) :
    (sortPackages k ps).Pairwise fun p q => k.keyOf p ≤ k.keyOf q :=
  k.pairwise_le_iff.mp (List.pairwise_mergeSort k.comparison.trans k.comparison.total ps)

theorem peers_sortPackages (p : Package) (ps : List Package) :
    k.peers p (sortPackages k ps) = k.peers p ps :=
  k.sameTies_iff.mp (filter_mergeSort k.comparison ps) p

/-- A list is the sorted one if it is in order and those with the same key stand as before. -/
theorem eq_sortPackages {ps qs : List Package}
    (hordered : qs.Pairwise fun p q => k.keyOf p ≤ k.keyOf q)
    (hpeers : ∀ p, k.peers p qs = k.peers p ps) : qs = sortPackages k ps :=
  eq_mergeSort k.comparison (k.pairwise_le_iff.mpr hordered) (k.sameTies_iff.mpr hpeers)

/-- The kind is known from its rank. -/
theorem Kind.rank_injective : Function.Injective Kind.rank := by
  intro a b h
  cases a <;> cases b <;> first | rfl | cases h

/-- Packages with the same key have the same name and kind. -/
theorem SortKey.name_and_kind {p q : Package} (h : k.keyOf p = k.keyOf q) :
    (p.name, p.kind) = (q.name, q.kind) := by
  have hboth : codePoints p.name = codePoints q.name ∧ p.kind.rank = q.kind.rank := by
    cases k with
    | size => exact Prod.mk.inj (Prod.mk.inj h).2
    | name => exact Prod.mk.inj h
    | kind => exact (Prod.mk.inj h).symm
  exact Prod.ext (codePoints_injective hboth.1) (Kind.rank_injective hboth.2)

/-- **Packages stand in the order of their keys.** The sorted list has the packages of the list, in
the order of their keys; those with the same key stand as they stood; and it is the only such list.
Sorting it again changes nothing. Where no two packages have the same name and kind, it does not
matter in which order they were given. -/
theorem packages_stand_in_order (ps : List Package) :
    (sortPackages k ps).Perm ps ∧
    (sortPackages k ps).Pairwise (fun p q => k.keyOf p ≤ k.keyOf q) ∧
    (∀ p, k.peers p (sortPackages k ps) = k.peers p ps) ∧
    (∀ qs : List Package, qs.Pairwise (fun p q => k.keyOf p ≤ k.keyOf q) →
      (∀ p, k.peers p qs = k.peers p ps) → qs = sortPackages k ps) ∧
    sortPackages k (sortPackages k ps) = sortPackages k ps ∧
    ((ps.map fun p => (p.name, p.kind)).Nodup → ∀ qs : List Package, qs.Perm ps →
      sortPackages k qs = sortPackages k ps) := by
  refine ⟨List.mergeSort_perm ps k.le, pairwise_sortPackages k ps,
    fun p => peers_sortPackages k p ps, fun qs => eq_sortPackages k, ?again, ?given⟩
  case again =>
    exact (eq_sortPackages k (pairwise_sortPackages k ps) fun _ => rfl).symm
  case given =>
    intro hnodup qs hperm
    refine (mergeSort_eq_of_perm k.comparison hperm.symm fun p hp q hq hpq hqp => ?_).symm
    have hkey : k.keyOf p = k.keyOf q :=
      le_antisymm ((k.le_iff p q).mp hpq) ((k.le_iff q p).mp hqp)
    exact List.inj_on_of_nodup_map hnodup hp hq (k.name_and_kind hkey)

/-! ### Filters -/

/-- **Filters and order commute.** What is kept of the sorted packages is what is kept of the given
ones, sorted, package by package; and the two filters can be applied one after the other, in either
order. -/
theorem filters_and_order_commute (pattern : Option (String → Bool)) (explicitOnly : Bool)
    (ps : List Package) :
    filterPackages pattern explicitOnly (sortPackages k ps) =
        sortPackages k (filterPackages pattern explicitOnly ps) ∧
      filterPackages none explicitOnly (filterPackages pattern false ps) =
        filterPackages pattern explicitOnly ps ∧
      filterPackages pattern false (filterPackages none explicitOnly ps) =
        filterPackages pattern explicitOnly ps := by
  have hkeeps : ∀ p, keeps pattern explicitOnly p =
      (keeps none explicitOnly p && keeps pattern false p) := fun p => by
    cases pattern <;> cases explicitOnly <;> simp [keeps, Bool.and_comm]
  simp only [filterPackages_eq_filter, List.filter_filter]
  refine ⟨(mergeSort_filter k.comparison (keeps pattern explicitOnly) ps).symm, ?_, ?_⟩
  · exact List.filter_congr fun p _ => (hkeeps p).symm
  · exact List.filter_congr fun p _ => (Bool.and_comm _ _).trans (hkeeps p).symm

end PinLedger

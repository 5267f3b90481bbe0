/-
# Numerals

A whole number is written by its decimal digits, with a minus in front if it is negative. There is
no zero in front of another digit, and the digits spell the number.

Key theorems: `isDigit_of_mem_toDigits`, `exists_toDigits_eq_cons`,
`head?_toDigits_ne_zero`, `ofDigits_toDigits`,
`toList_toString`, `isTooLong_iff`.
-/
import Mathlib.Data.Nat.Digits.Defs
import PinLedger.Number.Decimal

namespace PinLedger.Number

theorem isDigit_iff {c : Char} : isDigit c = true ↔ c.isDigit = true := by
  unfold isDigit Char.isDigit
  simp only [Bool.and_eq_true, decide_eq_true_eq]
  rfl

theorem isDigit_of_mem_toDigits {n : Nat} {c : Char} (h : c ∈ Nat.toDigits 10 n) :
    isDigit c = true :=
  isDigit_iff.mpr (Nat.isDigit_of_mem_toDigits (by decide) (by decide) h)

/-- A number is written with a digit in front. -/
theorem exists_toDigits_eq_cons (n : Nat) :
    ∃ d ds, Nat.toDigits 10 n = d :: ds ∧ isDigit d = true := by
  obtain ⟨d, ds, hds⟩ := List.exists_cons_of_ne_nil (Nat.toDigits_ne_nil (b := 10) (n := n))
  exact ⟨d, ds, hds, isDigit_of_mem_toDigits (n := n) (by simp [hds])⟩

/-- Only zero is written with a zero in front. -/
theorem head?_toDigits_ne_zero {n : Nat} (h : n ≠ 0) :
    (Nat.toDigits 10 n).head? ≠ some '0' := by
  induction n using Nat.strongRecOn with
  | ind n ih =>
    rw [Nat.toDigits_eq_if (by decide)]
    by_cases hn : n < 10
    · rw [if_pos hn]
      simpa using h
    · rw [if_neg hn]
      have hhead := ih (n / 10) (by omega) (by omega)
      cases hds : Nat.toDigits 10 (n / 10) with
      | nil => exact absurd hds Nat.toDigits_ne_nil
      | cons d ds => simpa [hds] using hhead

/-- A digit counts by its place among the characters. -/
theorem getD_digit? {c : Char} (h : isDigit c = true) : (digit? c).getD 0 = c.toNat - '0'.toNat := by
  have hc : '0' ≤ c ∧ c ≤ '9' := by simpa [isDigit] using h
  unfold digit?
  rw [if_pos hc]
  rfl

theorem foldl_digits {cs : List Char} (h : ∀ c ∈ cs, isDigit c = true) (start : Nat) :
    cs.foldl (fun n c => n * 10 + (digit? c).getD 0) start = Nat.ofDigitChars 10 cs start := by
  induction cs generalizing start with
  | nil => rfl
  | cons c cs ih =>
    obtain ⟨hc, hcs⟩ := List.forall_mem_cons.mp h
    rw [List.foldl_cons, ih hcs, Nat.ofDigitChars_cons, getD_digit? hc, Nat.mul_comm]

/-- The digits of a number spell it. -/
theorem ofDigits_toDigits (n : Nat) : ofDigits 10 (Nat.toDigits 10 n) = n := by
  have hdigits := foldl_digits (fun c hc => isDigit_of_mem_toDigits (n := n) hc) 0
  exact hdigits.trans Nat.ofDigitChars_ten_toDigits

/-- How a whole number is written. -/
theorem toList_toString (i : Int) :
    (toString i).toList = (if i < 0 then ['-'] else []) ++ Nat.toDigits 10 i.natAbs := by
  change (Int.repr i).toList = _
  rw [Int.repr_eq_if]
  by_cases hi : 0 ≤ i
  · rw [if_pos hi, if_neg (by omega), show i.toNat = i.natAbs by omega, Nat.toList_repr]
    rfl
  · rw [if_neg hi, if_pos (by omega), show (-i).toNat = i.natAbs by omega, String.toList_append,
      Nat.toList_repr]
    rfl

theorem length_toDigits_le_iff {n k : Nat} (hk : 0 < k) :
    (Nat.toDigits 10 n).length ≤ k ↔ n < powerOfTen k :=
  Nat.length_toDigits_le_iff (by decide) hk

/-- A number is too long exactly if it has more digits than are written. -/
theorem isTooLong_iff (i : Int) :
    isTooLong i = true ↔ writtenDigits < (Nat.toDigits 10 i.natAbs).length := by
  have hlength := length_toDigits_le_iff (n := i.natAbs) (k := writtenDigits) (by decide)
  unfold isTooLong
  rw [decide_eq_true_eq, ← Nat.not_lt, ← hlength, Nat.not_le]

end PinLedger.Number

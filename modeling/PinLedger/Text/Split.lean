/-
# Cutting texts

Cutting at a separator, at its first or last place or everywhere, and joining again. All functions
work on lists of characters.

Key definitions: `cutFirst?`, `cutLast?`, `splitAt`, `dropEnd?`.
Key theorems: `cutFirst?_eq_some_iff`, `cutLast?_eq_some_iff`, `splitAt_append`,
`splitAt_of_not_mem`, `dropEnd?_eq_some_iff`.
-/

namespace PinLedger.Text

/-- What stands before and after the first separator. -/
def cutFirst? (sep : Char) (cs : List Char) : Option (List Char × List Char) :=
  match cs.dropWhile (· != sep) with
  | [] => none
  | _ :: rest => some (cs.takeWhile (· != sep), rest)

theorem cutFirst?_append {sep : Char} {before : List Char} (after : List Char)
    (h : sep ∉ before) : cutFirst? sep (before ++ sep :: after) = some (before, after) := by
  have hp : ∀ c ∈ before, (c != sep) = true := fun c hc => by
    simpa using fun e : c = sep => h (e ▸ hc)
  simp [cutFirst?, List.dropWhile_append_of_pos hp, List.takeWhile_append_of_pos hp]

theorem cutFirst?_eq_some_iff {sep : Char} {cs before after : List Char} :
    cutFirst? sep cs = some (before, after) ↔ cs = before ++ sep :: after ∧ sep ∉ before := by
  constructor
  · intro h
    unfold cutFirst? at h
    split at h
    · simp at h
    · rename_i c rest hd
      simp only [Option.some.injEq, Prod.mk.injEq] at h
      obtain ⟨rfl, rfl⟩ := h
      have hc : c = sep := by
        have := List.head_dropWhile_not (· != sep) (l := cs) (by simp [hd])
        simpa [hd] using this
      subst hc
      refine ⟨?_, fun hm => ?_⟩
      · rw [← hd, List.takeWhile_append_dropWhile]
      · have hall := List.all_takeWhile (p := (· != c)) (l := cs)
        simpa using List.all_eq_true.mp hall c hm
  · rintro ⟨rfl, h⟩
    exact cutFirst?_append after h

/-- What stands before and after the last separator. -/
def cutLast? (sep : Char) (cs : List Char) : Option (List Char × List Char) :=
  (cutFirst? sep cs.reverse).map fun p => (p.2.reverse, p.1.reverse)

theorem cutLast?_eq_some_iff {sep : Char} {cs before after : List Char} :
    cutLast? sep cs = some (before, after) ↔ cs = before ++ sep :: after ∧ sep ∉ after := by
  simp only [cutLast?, Option.map_eq_some_iff, Prod.exists, cutFirst?_eq_some_iff]
  constructor
  · rintro ⟨a, b, ⟨h, hn⟩, heq⟩
    simp only [Prod.mk.injEq] at heq
    obtain ⟨rfl, rfl⟩ := heq
    have := congrArg List.reverse h
    exact ⟨by simpa using this, by simpa using hn⟩
  · rintro ⟨rfl, hn⟩
    exact ⟨after.reverse, before.reverse, ⟨by simp, by simpa using hn⟩, by simp⟩

/-- The parts between separators, one more than there are separators. -/
def splitAt (sep : Char) : List Char → List (List Char)
  | [] => [[]]
  | c :: cs =>
    match splitAt sep cs with
    | [] => [[c]]
    | part :: parts => if c = sep then [] :: part :: parts else (c :: part) :: parts

theorem splitAt_ne_nil (sep : Char) (cs : List Char) : splitAt sep cs ≠ [] := by
  cases cs with
  | nil => simp [splitAt]
  | cons c cs =>
    unfold splitAt
    split
    · simp
    · split <;> simp

theorem splitAt_append {sep : Char} {part : List Char} (rest : List Char) (h : sep ∉ part) :
    splitAt sep (part ++ sep :: rest) = part :: splitAt sep rest := by
  induction part with
  | nil =>
    obtain ⟨p, ps, hp⟩ := List.exists_cons_of_ne_nil (splitAt_ne_nil sep rest)
    simp [splitAt, hp]
  | cons c cs ih =>
    simp only [List.mem_cons, not_or] at h
    simp [splitAt, ih h.2, Ne.symm h.1]

theorem splitAt_of_not_mem {sep : Char} {cs : List Char} (h : sep ∉ cs) :
    splitAt sep cs = [cs] := by
  induction cs with
  | nil => rfl
  | cons c cs ih =>
    simp only [List.mem_cons, not_or] at h
    simp [splitAt, ih h.2, Ne.symm h.1]

/-- The text without an ending, `none` if it does not end so. -/
def dropEnd? (ending cs : List Char) : Option (List Char) :=
  if ending.isSuffixOf cs then some (cs.take (cs.length - ending.length)) else none

theorem dropEnd?_eq_some_iff {ending cs stem : List Char} :
    dropEnd? ending cs = some stem ↔ cs = stem ++ ending := by
  unfold dropEnd?
  split
  · rename_i h
    obtain ⟨t, rfl⟩ := List.isSuffixOf_iff_suffix.mp h
    simp [eq_comm]
  · rename_i h
    constructor
    · simp
    · rintro rfl
      exact absurd (List.isSuffixOf_iff_suffix.mpr ⟨stem, rfl⟩) h

/-- The parts of a text between separators, as texts. -/
def split (sep : Char) (s : String) : List String :=
  (splitAt sep s.toList).map String.ofList

end PinLedger.Text

/-
# Single steps of a walk

A walk takes its names one by one. In a directory a plain name leads to the entry of that name, or
to where the entry points if it is a link, or nowhere; a name that is too long is an error.

Key definitions: `IsPlain`.
Key theorems: `FileTree.find_top`, `FileTree.walk_of_lookup`, `FileTree.walk_of_link`,
`FileTree.walk_of_missing`, `FileTree.walk_of_long`.
-/
import PinLedger.Proofs.Files.Fits

namespace PinLedger

/-- A name that stands for itself: neither the place itself nor the one above. -/
def IsPlain (name : String) : Prop := ¬ (name = "." ∨ name = "") ∧ name ≠ ".."

instance (name : String) : Decidable (IsPlain name) :=
  inferInstanceAs (Decidable (¬ (name = "." ∨ name = "") ∧ name ≠ ".."))

theorem Node.isLink_eq_false {n : Node} (h : ∀ target, n = .link target → False) :
    n.isLink = false := by
  cases n with
  | link target => exact absurd rfl (h target)
  | file content => rfl
  | dir entries => rfl

namespace FileTree

variable {t : FileTree} {followLast : Bool} {links : Nat} {here : List String} {n : Node}
  {entries : List (String × Node)} {name target : String} {rest : List String}

theorem walk_nil (hat : t.top.at? here = some n) :
    t.walk followLast links here [] = .ok (here, n) := by
  rw [walk, hat]

theorem walk_of_dot (hat : t.top.at? here = some (.dir entries)) (hdot : name = "." ∨ name = "") :
    t.walk followLast links here (name :: rest) = t.walk followLast links here rest := by
  rw [walk, hat]
  dsimp only
  rw [if_pos hdot]

theorem walk_of_up (hat : t.top.at? here = some (.dir entries)) :
    t.walk followLast links here (".." :: rest) = t.walk followLast links here.dropLast rest := by
  rw [walk, hat]
  dsimp only
  rw [if_neg (by decide), if_pos rfl]

theorem walk_of_long (hat : t.top.at? here = some (.dir entries)) (hplain : IsPlain name)
    (hlong : maxNameSize < name.utf8ByteSize) :
    t.walk followLast links here (name :: rest) = .error .nameTooLong := by
  rw [walk, hat]
  dsimp only
  rw [if_neg hplain.1, if_neg hplain.2, if_pos hlong]

section Entry

variable (hat : t.top.at? here = some (.dir entries)) (hplain : IsPlain name)
  (hfits : PinLedger.Fits name)

include hat hplain hfits

/-- A name that stands for itself leads to what the directory holds. -/
theorem walk_of_entry : t.walk followLast links here (name :: rest) =
    match entries.lookup name with
    | none => .error .missing
    | some (.link target) =>
      if rest.isEmpty && !followLast then .ok (here ++ [name], .link target)
      else match links with
        | 0 => .error .linkLoop
        | more + 1 =>
          t.walk followLast more (if target.startsWith "/" then [] else here)
            (targetNames target ++ rest)
    | some _ => t.walk followLast links (here ++ [name]) rest := by
  rw [walk, hat]
  dsimp only
  exact (if_neg hplain.1).trans ((if_neg hplain.2).trans (if_neg (Nat.not_lt.mpr hfits)))

theorem walk_of_missing (hn : entries.lookup name = none) :
    t.walk followLast links here (name :: rest) = .error .missing := by
  rw [walk_of_entry hat hplain hfits, hn]

theorem walk_of_lookup (hn : entries.lookup name = some n) (hlink : n.isLink = false) :
    t.walk followLast links here (name :: rest) =
      t.walk followLast links (here ++ [name]) rest := by
  rw [walk_of_entry hat hplain hfits, hn]
  cases n with
  | file content => rfl
  | link target => simp [Node.isLink] at hlink
  | dir entries => rfl

variable (hn : entries.lookup name = some (.link target))

include hn

theorem walk_of_last_link (hlast : (rest.isEmpty && !followLast) = true) :
    t.walk followLast links here (name :: rest) = .ok (here ++ [name], .link target) := by
  rw [walk_of_entry hat hplain hfits, hn]
  exact if_pos hlast

variable (hlast : ¬ (rest.isEmpty && !followLast) = true)

include hlast

theorem walk_of_loop : t.walk followLast 0 here (name :: rest) = .error .linkLoop := by
  rw [walk_of_entry hat hplain hfits, hn]
  exact if_neg hlast

/-- The names that a link points to take the place of its own. -/
theorem walk_of_link : t.walk followLast (links + 1) here (name :: rest) =
    t.walk followLast links (if target.startsWith "/" then [] else here)
      (targetNames target ++ rest) := by
  rw [walk_of_entry hat hplain hfits, hn]
  exact if_neg hlast

end Entry

/-- A path that is a link is walked up to the link. -/
theorem walk_of_isLink? {p : Path} (h : t.isLink? p = .ok true) :
    ∃ place m, t.walk false maxLinks (t.start p) p.names = .ok (place, m) ∧ m.isLink = true := by
  unfold isLink? findLink at h
  cases hwalk : t.walk false maxLinks (t.start p) p.names with
  | error reason =>
    rw [hwalk] at h
    cases reason <;> cases h
  | ok found =>
    obtain ⟨place, m⟩ := found
    rw [hwalk] at h
    exact ⟨place, m, rfl, Except.ok.inj h⟩

/-! ### Short paths from the top -/

theorem find_top (t : FileTree) : t.find ⟨.top, []⟩ = .ok t.top := by
  have hwalk : t.walk true maxLinks (t.start ⟨.top, []⟩) [] = .ok ([], t.top) := walk_nil rfl
  unfold find locate
  rw [hwalk]
  rfl

theorem findLink_top (t : FileTree) : t.findLink ⟨.top, []⟩ = .ok t.top := by
  have hwalk : t.walk false maxLinks (t.start ⟨.top, []⟩) [] = .ok ([], t.top) := walk_nil rfl
  unfold findLink
  rw [hwalk]
  rfl

/-- What lies right below the top, if it is no link. -/
theorem find_top_lookup (htop : t.top = .dir entries) (hplain : IsPlain name)
    (hfits : PinLedger.Fits name) (hn : entries.lookup name = some n) (hreal : n.isLink = false) :
    t.find ⟨.top, [name]⟩ = .ok n := by
  have hat : t.top.at? [] = some (.dir entries) := congrArg some htop
  have hchild : t.top.at? [name] = some n := by
    rw [htop]
    simp [Node.at?, Node.child?, hn]
  have hwalk : t.walk true maxLinks (t.start ⟨.top, [name]⟩) [name] = .ok ([name], n) :=
    (walk_of_lookup hat hplain hfits hn hreal).trans (walk_nil hchild)
  unfold find locate
  rw [hwalk]
  rfl

theorem find_top_file {content : Content} (htop : t.top = .dir entries) (hplain : IsPlain name)
    (hfits : PinLedger.Fits name) (hn : entries.lookup name = some (.file content)) :
    t.find ⟨.top, [name]⟩ = .ok (.file content) :=
  find_top_lookup htop hplain hfits hn rfl

theorem find_top_missing (htop : t.top = .dir entries) (hplain : IsPlain name)
    (hfits : PinLedger.Fits name) (hn : entries.lookup name = none) :
    t.find ⟨.top, [name]⟩ = .error .missing := by
  have hat : t.top.at? [] = some (.dir entries) := congrArg some htop
  have hwalk : t.walk true maxLinks (t.start ⟨.top, [name]⟩) [name] = .error .missing :=
    walk_of_missing hat hplain hfits hn
  unfold find locate
  rw [hwalk]
  rfl

/-- A link right below the top is followed from the top. -/
theorem locate_top_link (htop : t.top = .dir entries) (hplain : IsPlain name)
    (hfits : PinLedger.Fits name) (hn : entries.lookup name = some (.link target)) :
    t.locate ⟨.top, [name]⟩ = t.walk true (maxLinks - 1) [] (targetNames target) := by
  have hat : t.top.at? [] = some (.dir entries) := congrArg some htop
  have hstep : t.walk true maxLinks [] [name] =
      t.walk true (maxLinks - 1) (if target.startsWith "/" then [] else [])
        (targetNames target ++ []) := walk_of_link hat hplain hfits hn (by simp)
  rwa [ite_self, List.append_nil] at hstep

theorem find_top_link (htop : t.top = .dir entries) (hplain : IsPlain name)
    (hfits : PinLedger.Fits name) (hn : entries.lookup name = some (.link target)) :
    t.find ⟨.top, [name]⟩ =
      (t.walk true (maxLinks - 1) [] (targetNames target)).map (·.2) := by
  unfold find
  rw [locate_top_link htop hplain hfits hn]

end FileTree

end PinLedger

/-
# Where all names fit

A directory cannot hold a name of more than 255 octets, and a question about a path that leads to
such a name fails. In a tree whose names fit, those that links point to included, a path whose own
names fit never leads to one (`walk_fits`), so questions about it are always answered.

Key definitions: `Fits`, `Node.Fits`, `FileTree.Fits`, `Path.Fits`.
Key theorems: `FileTree.walk_fits`, `FileTree.find_fits`, `FileTree.exists_isDir?_eq_ok`.
-/
import PinLedger.Files.Tree

namespace PinLedger

/-- A name is short enough for a directory. -/
def Fits (name : String) : Prop := name.utf8ByteSize ≤ FileTree.maxNameSize

instance (name : String) : Decidable (Fits name) :=
  inferInstanceAs (Decidable (name.utf8ByteSize ≤ FileTree.maxNameSize))

/-- All names of a path fit. -/
def Path.Fits (p : Path) : Prop := ∀ name ∈ p.names, PinLedger.Fits name

theorem Path.Fits.child {p : Path} (hp : p.Fits) {name : String} (h : PinLedger.Fits name) :
    (p.child name).Fits := by
  intro n hn
  rcases List.mem_append.mp hn with hn | hn
  · exact hp n hn
  · rwa [List.mem_singleton.mp hn]

namespace Node

mutual

/-- All names below a node fit, and so do those that links below it point to. -/
def Fits : Node → Prop
  | .file _ => True
  | .link target => ∀ name ∈ FileTree.targetNames target, PinLedger.Fits name
  | .dir entries => EntriesFit entries

/-- All names of entries and below them fit. -/
def EntriesFit : List (String × Node) → Prop
  | [] => True
  | (name, n) :: es => PinLedger.Fits name ∧ Fits n ∧ EntriesFit es

end

theorem EntriesFit.of_mem {es : List (String × Node)} (h : EntriesFit es) {e : String × Node}
    (he : e ∈ es) : PinLedger.Fits e.1 ∧ e.2.Fits := by
  induction es with
  | nil => simp at he
  | cons x es ih =>
    obtain ⟨name, n⟩ := x
    obtain ⟨hname, hn, hes⟩ := h
    rcases List.mem_cons.mp he with rfl | he
    · exact ⟨hname, hn⟩
    · exact ih hes he

theorem EntriesFit.of_lookup {es : List (String × Node)} (h : EntriesFit es) {name : String}
    {n : Node} (hn : es.lookup name = some n) : n.Fits := by
  obtain ⟨before, after, rfl, -⟩ := List.lookup_eq_some_iff.mp hn
  exact (h.of_mem (List.mem_append_right before (List.mem_cons_self ..))).2

theorem Fits.at? {n m : Node} {names : List String} (h : n.Fits) (hm : n.at? names = some m) :
    m.Fits := by
  induction names generalizing n with
  | nil =>
    obtain rfl : n = m := Option.some.inj hm
    exact h
  | cons name names ih =>
    obtain ⟨child, hchild, hrest⟩ := Option.bind_eq_some_iff.mp hm
    cases n with
    | file content => simp [child?] at hchild
    | link target => simp [child?] at hchild
    | dir entries => exact ih (EntriesFit.of_lookup h hchild) hrest

end Node

namespace FileTree

/-- All names of a tree fit. -/
def Fits (t : FileTree) : Prop := t.top.Fits

/-- What a walk may end in where all names fit. -/
def EndsWell : Except OsReason (List String × Node) → Prop
  | .ok (_, n) => n.Fits
  | .error reason => reason ≠ .nameTooLong

/-- A walk along names that fit meets no name that is too long. -/
theorem walk_fits {t : FileTree} (ht : t.Fits) (followLast : Bool) (links : Nat)
    (here names : List String) (hnames : ∀ name ∈ names, PinLedger.Fits name) :
    EndsWell (t.walk followLast links here names) := by
  fun_induction t.walk followLast links here names with
  | case1 links here n hat => exact Node.Fits.at? ht hat
  | case2 | case6 | case8 | case11 | case12 => simp [EndsWell]
  | case3 links here name names entries hat hdot ih => exact ih (List.forall_mem_cons.mp hnames).2
  | case4 links here names entries hat hdot ih => exact ih (List.forall_mem_cons.mp hnames).2
  | case5 links here name names entries hat hdot hup hlong =>
    have hfits := (List.forall_mem_cons.mp hnames).1
    exact absurd hlong (Nat.not_lt.mpr hfits)
  | case7 links here name names entries hat hdot hup hfit target hlookup hlast =>
    exact Node.EntriesFit.of_lookup (Node.Fits.at? ht hat) hlookup
  | case9 here name names entries hat hdot hup hfit target hlookup hlast more start ih =>
    -- The names that the link points to take the place of its own.
    have htarget : (Node.link target).Fits :=
      Node.EntriesFit.of_lookup (Node.Fits.at? ht hat) hlookup
    refine ih fun n hn => ?_
    rcases List.mem_append.mp hn with hn | hn
    · exact htarget n hn
    · exact (List.forall_mem_cons.mp hnames).2 n hn
  | case10 links here name names entries hat hdot hup hfit n hlink hlookup ih =>
    exact ih (List.forall_mem_cons.mp hnames).2

theorem find_fits {t : FileTree} (ht : t.Fits) {p : Path} (hp : p.Fits) :
    match t.find p with
    | .ok n => n.Fits
    | .error reason => reason ≠ .nameTooLong := by
  have h := walk_fits ht true maxLinks (t.start p) p.names hp
  unfold find locate
  cases hw : t.walk true maxLinks (t.start p) p.names with
  | ok r =>
    rw [hw] at h
    exact h
  | error reason =>
    rw [hw] at h
    exact h

/-- It is always known whether there is a directory. -/
theorem exists_isDir?_eq_ok {t : FileTree} (ht : t.Fits) {p : Path} (hp : p.Fits) :
    ∃ b, t.isDir? p = .ok b := by
  have h := find_fits ht hp
  unfold isDir? ask
  cases hf : t.find p with
  | ok n => exact ⟨_, rfl⟩
  | error reason =>
    rw [hf] at h
    cases reason with
    | nameTooLong => exact absurd rfl h
    | _ => exact ⟨_, rfl⟩

end FileTree

end PinLedger

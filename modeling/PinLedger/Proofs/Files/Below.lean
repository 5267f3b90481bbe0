/-
# The files below a node

The size of a node is that of the files below it, added up. Every one of them is found by its
names, and in a tree whose directories give every name once no two of them by the same names; so
each file counts once. Links are not entered. Two nodes with the same files at the same names have
one size, whatever links they hold, and in whatever order their directories list their entries.

Key definitions: `Node.Proper`, `Node.files`, `Node.real?`, `Node.SameFiles`.
Key theorems: `Node.size_eq_sum`, `Node.mem_files_iff`, `Node.nodup_files`,
`Node.SameFiles.size_eq`, `Node.sameFiles_of_perm`.
-/
import Mathlib
import PinLedger.Files.Size
import PinLedger.Proofs.Files.Places

namespace PinLedger.Node

variable {n m : Node} {es es' : List (String × Node)} {name : String} {names : List String}
  {c : Content}

/-! ### Entries by their names -/

mutual

/-- Every directory gives a name once, and only names that stand for themselves and fit. -/
def Proper : Node → Prop
  | .file _ => True
  | .link _ => True
  | .dir entries => EntriesProper entries

/-- The entries of a directory have different names that stand for themselves and fit, and below
them it is the same. -/
def EntriesProper : List (String × Node) → Prop
  | [] => True
  | (name, n) :: es =>
    (IsPlain name ∧ PinLedger.Fits name) ∧ (∀ e ∈ es, e.1 ≠ name) ∧ Proper n ∧ EntriesProper es

end

/-- By its own name an entry is found. -/
theorem EntriesProper.lookup (h : EntriesProper es) {e : String × Node} (he : e ∈ es) :
    es.lookup e.1 = some e.2 := by
  induction es with
  | nil => exact absurd he List.not_mem_nil
  | cons first es ih =>
    obtain ⟨name, n⟩ := first
    obtain ⟨-, hfresh, -, hes⟩ := h
    rcases List.mem_cons.mp he with rfl | he
    · exact List.lookup_cons_self
    · have hne : (e.1 == name) = false := beq_eq_false_iff_ne.mpr (hfresh e he)
      rw [List.lookup_cons, hne]
      exact ih hes he

theorem mem_of_lookup (h : es.lookup name = some n) : (name, n) ∈ es := by
  obtain ⟨before, after, rfl, -⟩ := List.lookup_eq_some_iff.mp h
  exact List.mem_append_right before (List.mem_cons_self ..)

theorem EntriesProper.of_mem (h : EntriesProper es) {e : String × Node} (he : e ∈ es) :
    (IsPlain e.1 ∧ PinLedger.Fits e.1) ∧ e.2.Proper := by
  induction es with
  | nil => exact absurd he List.not_mem_nil
  | cons first es ih =>
    obtain ⟨name, n⟩ := first
    obtain ⟨hname, -, hn, hes⟩ := h
    rcases List.mem_cons.mp he with rfl | he
    · exact ⟨hname, hn⟩
    · exact ih hes he

/-- What lies below a proper node is proper. -/
theorem Proper.at? (h : n.Proper) (hm : n.at? names = some m) : m.Proper := by
  induction names generalizing n with
  | nil =>
    obtain rfl : n = m := Option.some.inj hm
    exact h
  | cons name names ih =>
    obtain ⟨es, child, rfl, hchild, hrest⟩ := at?_cons_eq_some hm
    exact ih (EntriesProper.of_mem h (mem_of_lookup hchild)).2 hrest

/-! ### Files and the names that lead to them -/

mutual

/-- The files below a node, each with the names that lead to it. Links are not entered. -/
def files : Node → List (List String × Content)
  | .file content => [([], content)]
  | .link _ => []
  | .dir entries => filesAmong entries

/-- The files among entries and below them. -/
def filesAmong : List (String × Node) → List (List String × Content)
  | [] => []
  | (name, n) :: es => (files n).map (fun f => (name :: f.1, f.2)) ++ filesAmong es

end

/-- The sizes of files, added up. -/
def total (files : List (List String × Content)) : Nat := (files.map fun f => f.2.size).sum

theorem total_append (front back : List (List String × Content)) :
    total (front ++ back) = total front + total back := by
  rw [total, List.map_append, List.sum_append]
  rfl

/-- Where files are does not matter to their sizes. -/
theorem total_map_cons (name : String) (fs : List (List String × Content)) :
    total (fs.map fun f => (name :: f.1, f.2)) = total fs := by
  rw [total, List.map_map]
  rfl

mutual

theorem size_eq_sum : ∀ n : Node, n.size = total n.files
  | .file _ => rfl
  | .link _ => rfl
  | .dir es => entriesSize_eq_sum es

theorem entriesSize_eq_sum : ∀ es : List (String × Node), entriesSize es = total (filesAmong es)
  | [] => rfl
  | (name, n) :: es => by
    rw [entriesSize, filesAmong, total_append, total_map_cons, size_eq_sum n,
      entriesSize_eq_sum es]

end

theorem mem_map_cons_iff {fs : List (List String × Content)} :
    (names, c) ∈ fs.map (fun f => (name :: f.1, f.2)) ↔
      ∃ rest, names = name :: rest ∧ (rest, c) ∈ fs := by
  simp only [List.mem_map, Prod.mk.injEq, Prod.exists]
  constructor
  · rintro ⟨rest, c', hmem, rfl, rfl⟩
    exact ⟨rest, rfl, hmem⟩
  · rintro ⟨rest, rfl, hmem⟩
    exact ⟨rest, c, hmem, rfl, rfl⟩

mutual

/-- A file is below a node exactly if its names lead to it. -/
theorem mem_files_iff {names : List String} {c : Content} : ∀ {n : Node}, n.Proper →
    ((names, c) ∈ n.files ↔ n.at? names = some (.file c))
  | .file content, _ => by
    cases names with
    | nil => simp [files, at?, eq_comm]
    | cons name names => simp [files, at?, child?]
  | .link target, _ => by
    cases names with
    | nil => simp [files, at?]
    | cons name names => simp [files, at?, child?]
  | .dir es, h => mem_filesAmong_iff h

theorem mem_filesAmong_iff {names : List String} {c : Content} :
    ∀ {es : List (String × Node)}, EntriesProper es →
      ((names, c) ∈ filesAmong es ↔ (Node.dir es).at? names = some (.file c))
  | [], _ => by
    cases names with
    | nil => simp [filesAmong, at?]
    | cons name names => simp [filesAmong, at?, child?]
  | (name, n) :: es, h => by
    obtain ⟨-, hfresh, hn, hes⟩ := h
    rw [filesAmong, List.mem_append, mem_map_cons_iff, mem_filesAmong_iff hes]
    cases names with
    | nil => simp [at?]
    | cons first rest =>
      by_cases hfirst : first = name
      · subst hfirst
        -- No other entry has the name.
        have hnone : es.lookup first = none := by
          rw [List.lookup_eq_none_iff]
          exact fun e he => bne_iff_ne.mpr (hfresh e he).symm
        simp [at?, child?, hnone, mem_files_iff hn]
      · have hne : (first == name) = false := beq_eq_false_iff_ne.mpr hfirst
        simp [at?, child?, List.lookup_cons, hne, hfirst]

end

mutual

/-- No two files below a node are found by the same names. -/
theorem nodup_files : ∀ {n : Node}, n.Proper → (n.files.map Prod.fst).Nodup
  | .file _, _ => List.nodup_singleton _
  | .link _, _ => List.nodup_nil
  | .dir _, h => nodup_filesAmong h

theorem nodup_filesAmong : ∀ {es : List (String × Node)}, EntriesProper es →
    ((filesAmong es).map Prod.fst).Nodup
  | [], _ => List.nodup_nil
  | (name, n) :: es, h => by
    obtain ⟨-, hfresh, hn, hes⟩ := h
    have hfront : ((files n).map (fun f => (name :: f.1, f.2))).map Prod.fst =
        (n.files.map Prod.fst).map (name :: ·) := by
      rw [List.map_map, List.map_map]
      rfl
    have hdisjoint : List.Disjoint ((n.files.map Prod.fst).map (name :: ·))
        ((filesAmong es).map Prod.fst) := by
      intro names hnames hmem
      obtain ⟨rest, -, rfl⟩ := List.mem_map.mp hnames
      obtain ⟨⟨names', c⟩, hfile, rfl⟩ := List.mem_map.mp hmem
      obtain ⟨es', child, hdir, hchild, -⟩ := at?_cons_eq_some ((mem_filesAmong_iff hes).mp hfile)
      obtain rfl := Node.dir.inj hdir
      exact hfresh _ (mem_of_lookup hchild) rfl
    rw [filesAmong, List.map_append, hfront]
    exact ((nodup_files hn).map List.cons_injective).append (nodup_filesAmong hes) hdisjoint

end

/-- A directory has the size of its own entries, links apart. -/
theorem entriesSize_eq_sum_entries (es : List (String × Node)) :
    entriesSize es = ((es.filter fun e => !e.2.isLink).map fun e => e.2.size).sum := by
  induction es with
  | nil => rfl
  | cons e es ih =>
    obtain ⟨name, n⟩ := e
    cases n with
    | link target =>
      rw [entriesSize, ih, List.filter_cons_of_neg (by simp [isLink])]
      exact Nat.zero_add _
    | file content =>
      rw [entriesSize, ih, List.filter_cons_of_pos (by simp [isLink]), List.map_cons,
        List.sum_cons]
    | dir entries =>
      rw [entriesSize, ih, List.filter_cons_of_pos (by simp [isLink]), List.map_cons,
        List.sum_cons]

/-! ### Nodes with the same files -/

/-- What a node is, if it is no link: a file with its content, or a directory. -/
def seen : Node → Option (Option Content)
  | .file content => some (some content)
  | .link _ => none
  | .dir _ => some none

/-- What is at the end of some names, if it is no link. -/
def real? (n : Node) (names : List String) : Option (Option Content) := (n.at? names).bind seen

/-- At the same names there are the same files and the same directories. Any links may be there
besides. -/
def SameFiles (n m : Node) : Prop := ∀ names, n.real? names = m.real? names

theorem real?_append (n : Node) (front rest : List String) :
    n.real? (front ++ rest) = (n.at? front).bind (·.real? rest) := by
  rw [real?, at?_append, Option.bind_assoc]
  rfl

theorem real?_cons (es : List (String × Node)) (name : String) (rest : List String) :
    (Node.dir es).real? (name :: rest) = (es.lookup name).bind (·.real? rest) := by
  rw [real?, at?, Option.bind_assoc]
  rfl

theorem real?_link (target : String) (names : List String) :
    (Node.link target).real? names = none := by
  cases names <;> rfl

theorem real?_eq_file_iff : n.real? names = some (some c) ↔ n.at? names = some (.file c) := by
  rw [real?, Option.bind_eq_some_iff]
  constructor
  · rintro ⟨m, hm, hseen⟩
    cases m with
    | file content =>
      obtain rfl : content = c := by simpa [seen] using hseen
      exact hm
    | link target => simp [seen] at hseen
    | dir entries => simp [seen] at hseen
  · exact fun h => ⟨_, h, rfl⟩

theorem seen_eq_some_of_real (h : n.isLink = false) : ∃ x, n.seen = some x := by
  cases n with
  | file content => exact ⟨_, rfl⟩
  | link target => cases h
  | dir entries => exact ⟨_, rfl⟩

theorem isLink_of_seen {x : Option Content} (h : n.seen = some x) : n.isLink = false := by
  cases n with
  | file content => rfl
  | link target => cases h
  | dir entries => rfl

namespace SameFiles

/-- At the same names there are nodes with the same files below them. -/
theorem at? (h : n.SameFiles m) {n' : Node} (hn : n.at? names = some n')
    (hreal : n'.isLink = false) :
    ∃ m', m.at? names = some m' ∧ m'.seen = n'.seen ∧ n'.SameFiles m' := by
  obtain ⟨x, hx⟩ := seen_eq_some_of_real hreal
  have hthere : m.real? names = some x := by
    rw [← h names, real?, hn]
    exact hx
  obtain ⟨m', hm, hseen⟩ := Option.bind_eq_some_iff.mp hthere
  refine ⟨m', hm, hseen.trans hx.symm, fun rest => ?_⟩
  have hbelow := h (names ++ rest)
  rw [real?_append, real?_append, hn, hm] at hbelow
  exact hbelow

theorem dir (h : n.SameFiles m) (hn : n.at? names = some (.dir es)) :
    ∃ es', m.at? names = some (.dir es') ∧ (Node.dir es).SameFiles (.dir es') := by
  obtain ⟨m', hm, hseen, hbelow⟩ := h.at? hn rfl
  cases m' with
  | file content => cases hseen
  | link target => cases hseen
  | dir es' => exact ⟨es', hm, hbelow⟩

/-- Nodes with the same files have one size. -/
theorem size_eq (h : n.SameFiles m) (hn : n.Proper) (hm : m.Proper) : n.size = m.size := by
  have hperm : n.files.Perm m.files := by
    rw [List.perm_ext_iff_of_nodup (nodup_files hn).of_map (nodup_files hm).of_map]
    rintro ⟨names, c⟩
    rw [mem_files_iff hn, mem_files_iff hm, ← real?_eq_file_iff, ← real?_eq_file_iff, h names]
  rw [size_eq_sum, size_eq_sum, total, total, (hperm.map _).sum_eq]

end SameFiles

/-- What an entry other than a link leads to is there whatever the order of the entries is, and
whatever links there are. -/
theorem real?_of_perm (hes' : EntriesProper es')
    (h : (es.filter fun e => !e.2.isLink).Perm (es'.filter fun e => !e.2.isLink))
    {x : Option Content} (hx : (Node.dir es).real? names = some x) :
    (Node.dir es').real? names = some x := by
  cases names with
  | nil => exact hx
  | cons name rest =>
    rw [real?_cons, Option.bind_eq_some_iff] at hx
    obtain ⟨child, hchild, hrest⟩ := hx
    have hreal : (!child.isLink) = true := by
      cases child with
      | file content => rfl
      | link target =>
        rw [real?_link] at hrest
        cases hrest
      | dir entries => rfl
    have hmem : (name, child) ∈ es'.filter fun e => !e.2.isLink :=
      h.subset (List.mem_filter.mpr ⟨mem_of_lookup hchild, hreal⟩)
    have hthere : es'.lookup name = some child := hes'.lookup (List.mem_filter.mp hmem).1
    rw [real?_cons, hthere]
    exact hrest

/-- Directories whose entries are the same, but for links and for their order, have the same
files. -/
theorem sameFiles_of_perm (hes : EntriesProper es) (hes' : EntriesProper es')
    (h : (es.filter fun e => !e.2.isLink).Perm (es'.filter fun e => !e.2.isLink)) :
    (Node.dir es).SameFiles (.dir es') := by
  intro names
  refine Option.ext fun x => ⟨fun hx => ?_, fun hx => ?_⟩
  · exact real?_of_perm hes' h hx
  · exact real?_of_perm hes h.symm hx

/-- Where one entry is replaced by another node, a look-up finds what it found before, or the one
node in place of the other. -/
theorem lookup_of_entry (n m : Node) (before after : List (String × Node)) (name first : String) :
    (before ++ (name, n) :: after).lookup first = (before ++ (name, m) :: after).lookup first ∨
      (before ++ (name, n) :: after).lookup first = some n ∧
        (before ++ (name, m) :: after).lookup first = some m := by
  rw [List.lookup_append, List.lookup_append]
  cases before.lookup first with
  | some child => exact .inl rfl
  | none =>
    rw [Option.none_or, Option.none_or, List.lookup_cons, List.lookup_cons]
    cases first == name with
    | true => exact .inr ⟨rfl, rfl⟩
    | false => exact .inl rfl

/-- Where one entry is replaced by one with the same files, a directory keeps its files. -/
theorem sameFiles_of_entry (h : n.SameFiles m) (before after : List (String × Node))
    (name : String) :
    (Node.dir (before ++ (name, n) :: after)).SameFiles (.dir (before ++ (name, m) :: after)) := by
  intro names
  cases names with
  | nil => rfl
  | cons first rest =>
    rw [real?_cons, real?_cons]
    rcases lookup_of_entry n m before after name first with hsame | ⟨hn, hm⟩
    · rw [hsame]
    · rw [hn, hm]
      exact h rest

end PinLedger.Node

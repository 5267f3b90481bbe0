/-
# Where the faults of a document come from

A text is no document if it is not well-formed. Any other fault is one of the file, of a number that
stands in the text and is too great, or of a word: it stands somewhere in the document, is to be
read as a truth value, a number or a stamp, and cannot be.

Key definitions: `Node.words`, `Explained`, `Origin`.
Key theorems: `Word.read_eq_error`, `Node.explained_build`, `Source.ofOctets_fault`,
`origin_of_parse_eq_error`.
-/
import PinLedger.Proofs.Yaml.Nodes
import PinLedger.Yaml.Reader

namespace PinLedger.Yaml

open Document (Value decodeUtf8?)

/-! ### Words -/

/-- The tags whose words need a certain form. -/
def formedTags : List Tag := [.bool, .int, .float, .stamp]

/-- A scalar that has another fault than that its tag does not fit is one of those that need a
certain form. -/
theorem Scalar.read_eq_error {tag : Tag} {s : String} {fault : Fault}
    (h : Scalar.read tag s = .error fault) (hfault : fault ≠ .malformed) : tag ∈ formedTags := by
  have hoctets : ∀ fault, toOctets s = .error fault → fault = .malformed := fun fault h => by
    unfold toOctets at h
    dsimp only at h
    repeat' split at h
    all_goals cases h <;> rfl
  cases tag with
  | bool | int | float | stamp => decide
  | null | text => cases h
  | binary => exact absurd (hoctets fault (Outcome.map_eq_error_iff.mp h)) hfault
  | list | table | set | ordered | pairs | merge | main | unknown =>
    cases h
    exact absurd rfl hfault

/-- A word that has another fault than that its tag does not fit is one of those that need a
certain form. -/
theorem Word.read_eq_error {w : Word} {fault : Fault} (h : w.read = .error fault)
    (hfault : fault ≠ .malformed) : w.tag ∈ formedTags := by
  unfold Word.read at h
  split at h
  · next hstamp =>
    have htag : w.tag = .stamp := by simpa using (Bool.and_eq_true_iff.mp hstamp).2
    rw [htag]
    decide
  · exact Scalar.read_eq_error h hfault

/-- A text can always be read. -/
theorem Word.read_text (text : String) (isMain : Bool) :
    (⟨.text, text, isMain⟩ : Word).read = .ok (.text text) := by
  cases isMain <;> rfl

namespace Node

mutual

/-- The words of a node with the tags they are read by. A table may be read as its main value. -/
def words : Node → List Word
  | .scalar tag text => [⟨tag, text, false⟩]
  | .list _ items => itemsWords items
  | .table tag entries =>
    ((mainText? entries).map fun text => ⟨tag, text, true⟩).toList ++ entriesWords entries

/-- The words of some nodes. -/
def itemsWords : List Node → List Word
  | [] => []
  | n :: ns => n.words ++ itemsWords ns

/-- The words of some entries. -/
def entriesWords : List (Node × Node) → List Word
  | [] => []
  | (k, v) :: rest => k.words ++ v.words ++ entriesWords rest

end

theorem mem_words {n : Node} {w : Word} (h : n.wordAs? n.tag = some w) : w ∈ n.words := by
  cases n with
  | scalar tag text =>
    obtain rfl := Option.some.inj h
    exact List.mem_singleton_self _
  | list tag items => cases h
  | table tag entries =>
    have hmain : (mainText? entries).map (fun text => (⟨tag, text, true⟩ : Word)) = some w := h
    rw [words, hmain]
    exact List.mem_append_left _ (List.mem_singleton_self w)

end Node

/-! ### Explained faults -/

/-- A reading has no fault, is not well-formed, or has a fault of one of some words. -/
def Explained {α : Type} (words : List Word) (b : Built α) : Prop :=
  ∀ e, b = .error e → e.fault = .malformed ∨ ∃ w ∈ words, w.read = .error e.fault

namespace Explained

variable {α β γ : Type} {ws ws' : List Word}

theorem ok (ws : List Word) (a : α) : Explained ws (.ok a : Built α) := fun _ h => by cases h

theorem malformed (ws : List Word) (depth : Nat) :
    Explained ws (Built.fault depth .malformed : Built α) := fun e h => by
  cases h
  exact .inl rfl

theorem ofRead {depth : Nat} {w : Word} (h : w ∈ ws) :
    Explained ws (Built.ofRead depth w.read) := fun e he => by
  cases hread : w.read with
  | ok v =>
    rw [hread] at he
    cases he
  | error fault =>
    rw [hread] at he
    cases he
    exact .inr ⟨w, h, hread⟩

theorem mono {b : Built α} (h : Explained ws b) (hws : ws ⊆ ws') : Explained ws' b :=
  fun e he => (h e he).imp_right fun ⟨w, hw, hread⟩ => ⟨w, hws hw, hread⟩

theorem map {b : Built α} (h : Explained ws b) (f : α → β) : Explained ws (f <$> b) :=
  fun e he => h e (Outcome.map_eq_error_iff.mp he)

theorem both {f : α → β → γ} {a : Built α} {b : Built β} (ha : Explained ws a)
    (hb : Explained ws b) : Explained ws (Built.both f a b) := by
  intro e he
  cases a with
  | ok a =>
    cases b with
    | ok b => cases he
    | error e' =>
      cases he
      exact hb e rfl
  | error e' =>
    cases b with
    | ok b =>
      cases he
      exact ha e rfl
    | error e'' =>
      obtain rfl := Except.error.inj he
      split
      · exact hb _ rfl
      · exact ha _ rfl

theorem all {bs : List (Built α)} (h : ∀ b ∈ bs, Explained ws b) : Explained ws (Built.all bs) := by
  induction bs with
  | nil => exact ok ws []
  | cons b bs ih =>
    rw [List.forall_mem_cons] at h
    exact both h.1 (ih h.2)

end Explained

namespace Node

theorem explained_readAs (n : Node) (depth : Nat) : Explained n.words (n.readAs depth n.tag) := by
  unfold readAs
  split
  · next w hw => exact .ofRead (mem_words hw)
  · exact .malformed _ _

theorem explained_readKey (k : Node) (depth : Nat) : Explained k.words (k.readKey depth) := by
  unfold readKey
  by_cases htag : k.tag = .main
  · rw [if_pos htag]
    change Explained _ (k.readAs depth .text)
    unfold readAs wordAs?
    cases k.scalarText? with
    | none => exact .malformed _ _
    | some text =>
      change Explained _ (Built.ofRead depth (⟨.text, text, k.isTable⟩ : Word).read)
      rw [Word.read_text]
      exact .ok _ _
  · rw [if_neg htag]
    dsimp only
    split
    · exact k.explained_readAs depth
    · exact .malformed _ _

theorem explained_cons_malformed {ns : List Node} {bs : List (Built Value)} (depth : Nat) (n : Node)
    (h : ∀ b ∈ bs, Explained (itemsWords ns) b) :
    ∀ b ∈ Built.fault depth .malformed :: bs, Explained (itemsWords (n :: ns)) b := by
  rw [List.forall_mem_cons, itemsWords]
  exact ⟨.malformed _ _, fun b hb => (h b hb).mono (List.subset_append_right ..)⟩

mutual

/-- Every fault of a node is explained by its scalars. -/
theorem explained_build : ∀ (depth : Nat) (n : Node), Explained n.words (n.build depth)
  | depth, .scalar tag text => by
    unfold build
    split
    · exact .malformed _ _
    · exact .malformed _ _
    · exact .malformed _ _
    · exact .malformed _ _
    · exact .malformed _ _
    · exact explained_readAs (.scalar tag text) depth
  | depth, .list tag items => by
    have hitems := explained_buildItems (depth + 1) items
    have hpairs := explained_buildPairs (depth + 1) items
    unfold build
    rw [words]
    split
    · exact (Explained.all hitems).map _
    · exact (Explained.all hpairs).map _
    · exact (Explained.all hpairs).map _
    · exact .malformed _ _
    · exact .malformed _ _
    · exact .malformed _ _
  | depth, .table tag entries => by
    have hall := Explained.all (explained_buildEntries (depth + 1) entries)
    have hself := explained_readAs (.table tag entries) depth
    rw [words] at hself ⊢
    unfold build
    split
    · split
      · exact (hall.mono (List.subset_append_right ..)).map _
      · exact .malformed _ _
    · split
      · exact (hall.mono (List.subset_append_right ..)).map _
      · exact .malformed _ _
    · exact .malformed _ _
    · exact .malformed _ _
    · exact .malformed _ _
    · -- A table that has another tag is read as its main value.
      exact hself

theorem explained_buildItems : ∀ (depth : Nat) (ns : List Node),
    ∀ b ∈ buildItems depth ns, Explained (itemsWords ns) b
  | _, [] => by simp [buildItems]
  | depth, n :: ns => by
    have hn := explained_build depth n
    have hns := explained_buildItems depth ns
    simp only [buildItems, itemsWords, List.forall_mem_cons]
    exact ⟨hn.mono (List.subset_append_left ..),
      fun b hb => (hns b hb).mono (List.subset_append_right ..)⟩

theorem explained_buildPairs : ∀ (depth : Nat) (ns : List Node),
    ∀ b ∈ buildPairs depth ns, Explained (itemsWords ns) b
  | _, [] => by simp [buildPairs]
  | depth, .table tag [(k, v)] :: ns => by
    have hk := explained_build depth k
    have hv := explained_build depth v
    have hns := explained_buildPairs depth ns
    simp only [buildPairs, itemsWords, List.forall_mem_cons]
    refine ⟨?_, fun b hb => (hns b hb).mono (List.subset_append_right ..)⟩
    have hparts : k.words ++ v.words ⊆ Node.words (.table tag [(k, v)]) := by
      simp [words, entriesWords]
    refine Explained.mono (.both ?_ ?_) (List.subset_append_of_subset_left _ hparts)
    · exact hk.mono (List.subset_append_left ..)
    · exact hv.mono (List.subset_append_right ..)
  | depth, .table _ [] :: ns => explained_cons_malformed depth _ (explained_buildPairs depth ns)
  | depth, .table _ (_ :: _ :: _) :: ns =>
    explained_cons_malformed depth _ (explained_buildPairs depth ns)
  | depth, .scalar .. :: ns => explained_cons_malformed depth _ (explained_buildPairs depth ns)
  | depth, .list .. :: ns => explained_cons_malformed depth _ (explained_buildPairs depth ns)

theorem explained_buildEntries : ∀ (depth : Nat) (entries : List (Node × Node)),
    ∀ b ∈ (buildEntries depth entries).toList, Explained (entriesWords entries) b
  | _, [] => by simp [buildEntries, Parts.toList]
  | depth, (k, v) :: rest => by
    have hk := explained_readKey k depth
    have hv := explained_build depth v
    have hsource := explained_buildSource depth v
    have hrest := explained_buildEntries depth rest
    intro b hb
    rw [entriesWords]
    have hbelow : b ∈ (buildEntries depth rest).toList →
        Explained (k.words ++ v.words ++ entriesWords rest) b := fun h =>
      (hrest b h).mono (List.subset_append_right ..)
    unfold buildEntries at hb
    dsimp only at hb
    split at hb
    · rw [Parts.toList, List.append_assoc, List.mem_append] at hb
      rcases hb with hb | hb
      · refine (hsource b hb).mono ?_
        rw [List.append_assoc]
        exact List.subset_append_of_subset_right _ (List.subset_append_left ..)
      · exact hbelow hb
    · rw [Parts.toList, List.mem_append, List.mem_cons] at hb
      rcases hb with hb | rfl | hb
      · exact hbelow (List.mem_append_left _ hb)
      · refine Explained.mono (.both ?_ (hv.mono (List.subset_append_right ..)))
          (List.subset_append_left ..)
        exact hk.mono (List.subset_append_left ..)
      · exact hbelow (List.mem_append_right _ hb)

theorem explained_buildSource : ∀ (depth : Nat) (n : Node),
    ∀ b ∈ buildSource depth n, Explained n.words b
  | _, .scalar .. => by simp [buildSource]
  | depth, .list _ items => by
    have hitems := explained_buildSources depth items
    simpa only [buildSource, words] using hitems
  | depth, .table _ entries => by
    have hentries := explained_buildEntries depth entries
    intro b hb
    simp only [buildSource] at hb
    rw [words]
    exact (hentries b hb).mono (List.subset_append_right ..)

theorem explained_buildSources : ∀ (depth : Nat) (ns : List Node),
    ∀ b ∈ buildSources depth ns, Explained (itemsWords ns) b
  | _, [] => by simp [buildSources]
  | depth, n :: ns => by
    have hn := explained_buildSource depth n
    have hns := explained_buildSources depth ns
    intro b hb
    rw [buildSources, List.mem_append] at hb
    rw [itemsWords]
    rcases hb with hb | hb
    · exact (hns b hb).mono (List.subset_append_right ..)
    · exact (hn b hb).mono (List.subset_append_left ..)

end

theorem toValue_eq_error {n : Node} {fault : Fault} (h : n.toValue = .error fault)
    (hfault : fault ≠ .malformed) :
    ∃ w ∈ n.words, w.tag ∈ formedTags ∧ w.read = .error fault := by
  obtain ⟨e, he, rfl⟩ := Outcome.mapError_eq_error_iff.mp h
  obtain ⟨w, hw, hread⟩ := (explained_build 0 n e he).resolve_left hfault
  exact ⟨w, hw, Word.read_eq_error hread hfault, hread⟩

end Node

/-! ### The file -/

namespace Source

theorem ofBlocks_fault (last : Option Fault) (fuel length : Nat) (cs : List Char) :
    (ofBlocks last fuel length cs).fault = last ∨
      (ofBlocks last fuel length cs).fault = some .malformed := by
  induction fuel generalizing length cs with
  | zero => exact .inl rfl
  | succ fuel ih =>
    unfold ofBlocks
    dsimp only
    split
    · exact .inl rfl
    · split
      · exact ih ..
      · exact .inr rfl

/-- Reading on in a file ends in a fault other than that the text is not well-formed only if the
octets are no text. -/
theorem ofOctets_fault {octets : List UInt8} {fault : Fault}
    (h : (ofOctets octets).fault = some fault) (hfault : fault ≠ .malformed) :
    fault = .encoding ∧ decodeUtf8? octets = none := by
  unfold ofOctets at h
  split at h
  · rcases ofBlocks_fault none .. with hnone | hmalformed
    · cases hnone.symm.trans h
    · exact absurd (Option.some.inj (hmalformed.symm.trans h)).symm hfault
  · next hoctets =>
    rcases ofBlocks_fault (some .encoding) .. with hencoding | hmalformed
    · exact ⟨(Option.some.inj (hencoding.symm.trans h)).symm, hoctets⟩
    · exact absurd (Option.some.inj (hmalformed.symm.trans h)).symm hfault

end Source

/-! ### The whole text -/

/-- What a fault of a text comes from: of the file, of a number or of a word, it is the first that
is met. -/
inductive Origin (s : Source) (fault : Fault) : Prop
  /-- It is the file's. -/
  | file (h : s.fault = some fault) (hmet : Node.ofSource s = .error fault)
  /-- A number that is too great stands in the text. -/
  | number (h : Shows s.chars fault) (hmet : Node.ofSource s = .error fault)
  /-- A word that needs a certain form cannot be read. -/
  | word {n : Node} {w : Word} (h : Node.ofSource s = .ok (some n)) (hw : w ∈ n.words)
    (htag : w.tag ∈ formedTags) (hread : w.read = .error fault) (hmet : n.toValue = .error fault)

/-- A fault of a text has an origin unless it is that the text is not well-formed. -/
theorem origin_of_parse_eq_error {s : Source} {fault : Fault} (h : parse s = .error fault)
    (hfault : fault ≠ .malformed) : Origin s fault := by
  rcases Outcome.bind_eq_error_iff.mp h with hmet | ⟨n, hn, hmet⟩
  · rcases Node.ofSource_eq_error hmet hfault with hfile | hshows
    · exact .file hfile hmet
    · exact .number hshows hmet
  · cases n with
    | none => cases hmet
    | some n =>
      obtain ⟨w, hw, htag, hread⟩ := n.toValue_eq_error hmet hfault
      exact .word hn hw htag hread hmet

end PinLedger.Yaml

/-
# Lock files whose names are spelled otherwise

An entry of a package table may give the name of its package. If the name is spelled otherwise, the
record that is read has the new spelling and is the same in all else (`Renamed.toRecord`). So lock
files that are read from such documents lock the same records but for the spelling of names
(`ofDocument_renamed`, `packages_renamed`).

Key definitions: `LockFile.Renamed`, `LockFile.RenamedDocument`, `Record.rename`, `Record.Renamed`.
Key theorems: `Checked.map_apply`, `Renamed.toRecord`, `tableOf_renamed`, `ofDocument_renamed`,
`packages_renamed`.
-/
import PinLedger.LockFile.Basic
import PinLedger.Proofs.Outcome
import PinLedger.Proofs.Spelling.Names

namespace PinLedger

open Document Outcome

/-! ### Records -/

/-- A record under another name. -/
def Record.rename (name : String) : Record → Record
  | .archive r => .archive { r with name }
  | .source r => .source { r with name }
  | .pypi r => .pypi { r with name }

/-- Records that differ at most in how the name is spelled. -/
structure Record.Renamed (r r' : Record) : Prop where
  renamed : ∃ name, r' = r.rename name
  normalizedName : r.normalizedName = r'.normalizedName

theorem Record.rename_name (r : Record) : r.rename r.name = r := by
  cases r <;> rfl

theorem Record.Renamed.refl (r : Record) : Record.Renamed r r :=
  ⟨⟨r.name, r.rename_name.symm⟩, rfl⟩

theorem Record.name_rename (r : Record) (name : String) : (r.rename name).name = name := by
  cases r <;> rfl

theorem Record.kind_rename (r : Record) (name : String) : (r.rename name).kind = r.kind := by
  cases r <;> rfl

theorem Record.Renamed.kind {r r' : Record} (h : Record.Renamed r r') : r.kind = r'.kind := by
  obtain ⟨⟨name, rfl⟩, -⟩ := h
  exact (r.kind_rename name).symm

theorem Record.renamed_rename {r : Record} {name : String} (h : r.kind.SameName r.name name) :
    Record.Renamed r (r.rename name) := by
  refine ⟨⟨name, rfl⟩, ?_⟩
  rw [Record.normalizedName, Record.normalizedName, r.kind_rename, r.name_rename]
  exact h

/-! ### Readings of records -/

/-- A change of what is read can be made before the last field is read. -/
theorem Checked.map_apply {α β γ : Type} (g : β → γ) (f : Checked (α → β)) (x : Checked α) :
    (Checked.apply f x).map g = Checked.apply (f.map fun h a => g (h a)) x := by
  cases f <;> cases x <;> rfl

/-- Fields with a text as name, and the same fields with another name. -/
structure NamedFields (f f' : Fields) (name name' : String) : Prop where
  name : f.get? "name" = some (.text name)
  name' : f'.get? "name" = some (.text name')
  others : ∀ key, key ≠ "name" → f.get? key = f'.get? key

namespace NamedFields

variable {f f' : Fields} {name name' : String}

theorem required_name (h : NamedFields f f' name name') :
    f.required "name" Value.asText = .ok name := by
  rw [Fields.required, h.name]
  rfl

theorem required_name' (h : NamedFields f f' name name') :
    f'.required "name" Value.asText = .ok name' := by
  rw [Fields.required, h.name']
  rfl

theorem required_eq (h : NamedFields f f' name name') {key : String} (hkey : key ≠ "name")
    {α : Type} (read : Value → Checked α) : f.required key read = f'.required key read := by
  rw [Fields.required, h.others key hkey]
  rfl

theorem optional_eq (h : NamedFields f f' name name') {key : String} (hkey : key ≠ "name")
    {α : Type} (default : α) (read : Value → Checked α) :
    f.optional key default read = f'.optional key default read := by
  rw [Fields.optional, h.others key hkey]
  rfl

theorem self (h : NamedFields f f' name name') : NamedFields f f name name :=
  ⟨h.name, h.name, fun _ _ => rfl⟩

/-- An archive record is read with the other name. -/
theorem archive (h : NamedFields f f' name name') :
    ArchiveRecord.check f' = (ArchiveRecord.check f).map fun r => { r with name := name' } := by
  simp (disch := decide) only [ArchiveRecord.check, Checked.map_apply, h.required_name,
    h.required_name', h.required_eq, h.optional_eq]
  rfl

theorem source (h : NamedFields f f' name name') :
    SourceRecord.check f' = (SourceRecord.check f).map fun r => { r with name := name' } := by
  simp (disch := decide) only [SourceRecord.check, Checked.map_apply, h.required_name,
    h.required_name', h.required_eq, h.optional_eq]
  rfl

theorem pypi (h : NamedFields f f' name name') (location : Value → Checked Location) :
    PypiRecord.check f' location =
      (PypiRecord.check f location).map fun r => { r with name := name' } := by
  simp (disch := decide) only [PypiRecord.check, Checked.map_apply, h.required_name,
    h.required_name', h.required_eq, h.optional_eq]
  rfl

end NamedFields

/-- A reading that gives a record under a name gives it under every name. -/
theorem related_ofChecked {α : Type} {read read' : Checked α} (make : α → Record)
    (rename : String → α → α) {name name' : String} {kind : Kind}
    (hmake : ∀ n a, make (rename n a) = (make a).rename n) (hkind : ∀ a, (make a).kind = kind)
    (hread : read = read.map (rename name)) (hread' : read' = read.map (rename name'))
    (hsame : kind.SameName name name') :
    Related Record.Renamed (make <$> Entry.ofChecked read) (make <$> Entry.ofChecked read') := by
  rw [hread']
  cases hr : read with
  | error faults => exact .error _
  | ok a =>
    rw [hr] at hread
    have ha : a = rename name a := Except.ok.inj hread
    have hname : (make a).name = name := by
      rw [ha, hmake, Record.name_rename]
    refine .ok ?_
    rw [hmake]
    refine Record.renamed_rename ?_
    rw [hkind, hname]
    exact hsame

/-! ### Entries -/

namespace LockFile

/-- An entry as it is, or with its name spelled otherwise. -/
inductive Renamed (e : Fields) : Fields → Prop where
  | same : Renamed e e
  | named {e' : Fields} {kind : Kind} {name name' : String}
      (hkind : (Entry.key e).kind = kind.word) (hfields : NamedFields e e' name name')
      (hsame : kind.SameName name name') : Renamed e e'

/-- The key of an entry does not tell its name. -/
theorem Renamed.keyValues_eq {e e' : Fields} (h : Renamed e e') :
    Entry.keyValues e = Entry.keyValues e' := by
  cases h with
  | same => rfl
  | named _ hfields _ =>
    simp (disch := decide) only [Entry.keyValues, Entry.valueOf, hfields.others]

theorem Renamed.key_eq {e e' : Fields} (h : Renamed e e') : Entry.key e = Entry.key e' := by
  rw [Entry.key, Entry.key, h.keyValues_eq]

theorem Renamed.isKeyed_eq {e e' : Fields} (h : Renamed e e') :
    Entry.isKeyed e = Entry.isKeyed e' := by
  rw [Entry.isKeyed, Entry.isKeyed, h.keyValues_eq]

variable {e e' : Fields} {name name' : String}

theorem needed_name (h : NamedFields e e' name name') :
    Entry.needed e "name" = .ok (.text name) ∧ Entry.needed e' "name" = .ok (.text name') := by
  rw [Entry.needed, h.name, Entry.needed, h.name']
  exact ⟨rfl, rfl⟩

theorem needed_eq (h : NamedFields e e' name name') {key : String} (hkey : key ≠ "name") :
    Entry.needed e key = Entry.needed e' key := by
  rw [Entry.needed, h.others key hkey]
  rfl

theorem namedFields_cons (name name' : String) (f : Fields) :
    NamedFields (("name", .text name) :: f) (("name", .text name') :: f) name name' := by
  refine ⟨rfl, rfl, fun key hkey => ?_⟩
  have hne : (key == "name") = false := by simpa using hkey
  rw [Fields.get?, List.lookup_cons, hne, Fields.get?, List.lookup_cons, hne]

theorem toPypi_renamed (h : NamedFields e e' name name') (hsame : Kind.pypi.SameName name name')
    (location : String) :
    Related Record.Renamed (Entry.toPypi location e) (Entry.toPypi location e') := by
  unfold Entry.toPypi
  rw [(needed_name h).1, (needed_name h).2]
  simp (disch := decide) only [ok_bind, needed_eq h, Entry.hash, Entry.valueOf, Entry.listOf,
    h.others]
  refine Related.bind_self _ fun given => ?_
  refine Related.bind_self _ fun version => ?_
  refine Related.bind_self _ fun hash => ?_
  have hfields := namedFields_cons name name'
  exact related_ofChecked Record.pypi (fun n r => { r with name := n }) (fun _ _ => rfl)
    (fun _ => rfl) ((hfields _).self.pypi Location.ofValue)
    ((hfields _).pypi Location.ofValue) hsame

theorem toSource_renamed (h : NamedFields e e' name name') (hsame : Kind.conda.SameName name name')
    (location : String) :
    Related Record.Renamed (Entry.toSource location e) (Entry.toSource location e') := by
  unfold Entry.toSource
  rw [(needed_name h).1, (needed_name h).2]
  simp (disch := decide) only [ok_bind, needed_eq h, Entry.valueOf, Entry.listOf, h.others]
  refine Related.bind_self _ fun given => ?_
  refine Related.bind_self _ fun version => ?_
  refine Related.bind_self _ fun build => ?_
  have hfields := namedFields_cons name name'
  exact related_ofChecked Record.source (fun n r => { r with name := n }) (fun _ _ => rfl)
    (fun _ => rfl) (hfields _).self.source (hfields _).source hsame

/-- Of what the file name of an archive says, the name does not count if one is given. -/
theorem toArchive_renamed (h : NamedFields e e' name name')
    (hsame : Kind.conda.SameName name name') (location : String) :
    Related Record.Renamed (Entry.toArchive location e) (Entry.toArchive location e') := by
  unfold Entry.toArchive
  simp (disch := decide) only [h.name, h.name', Option.getD_some, Entry.valueOf, Entry.listOf,
    h.others]
  refine Related.bind_self _ fun parts => ?_
  refine Related.bind_self _ fun version => ?_
  refine Related.bind_self _ fun build => ?_
  have hfields := namedFields_cons name name'
  exact related_ofChecked Record.archive (fun n r => { r with name := n }) (fun _ _ => rfl)
    (fun _ => rfl) (hfields _).self.archive (hfields _).archive hsame

/-- The record of an entry whose name is spelled otherwise. -/
theorem Renamed.toRecord (h : Renamed e e') :
    Related Record.Renamed (Entry.toRecord (Entry.key e) e) (Entry.toRecord (Entry.key e) e') := by
  cases h with
  | same => exact (Related.of_eq rfl).imp fun r _ hr => hr ▸ Record.Renamed.refl r
  | @named e' kind name name' hkind hfields hsame =>
    unfold Entry.toRecord
    rw [hkind]
    cases kind with
    | pypi => exact toPypi_renamed hfields hsame _
    | conda =>
      have hpypi : ¬ Kind.conda.word = "pypi" := by decide
      have hconda : ¬ Kind.conda.word ≠ "conda" := by decide
      simp only [if_neg hpypi, if_neg hconda]
      split
      · exact toArchive_renamed hfields hsame _
      · exact toSource_renamed hfields hsame _

/-! ### Package tables -/

/-- Package tables with the same keys, whose records differ at most in how names are spelled. -/
abbrev TableRenamed : List (Entry.Key × Record) → List (Entry.Key × Record) → Prop :=
  List.Forall₂ fun a b => a.1 = b.1 ∧ Record.Renamed a.2 b.2

theorem tableOf_renamed {es es' : List Fields} (h : List.Forall₂ Renamed es es')
    (seen : List Entry.Key) :
    Related TableRenamed (tableOf seen es).records (tableOf seen es').records := by
  induction h generalizing seen with
  | nil => exact .ok .nil
  | @cons e e' es es' he _ ih =>
    have hrecord := he.toRecord
    simp only [tableOf, ← he.key_eq, ← he.isKeyed_eq]
    split
    · exact .error _
    · split
      · exact ih seen
      · generalize Entry.toRecord (Entry.key e) e = read at hrecord ⊢
        generalize Entry.toRecord (Entry.key e) e' = read' at hrecord ⊢
        cases hrecord with
        | error fault => exact .error _
        | ok hr => exact (ih _).map fun _ _ hrest => .cons ⟨rfl, hr⟩ hrest

theorem lookup_renamed {table table' : List (Entry.Key × Record)} (h : TableRenamed table table')
    (key : Entry.Key) :
    (table.lookup key = none ∧ table'.lookup key = none) ∨
      ∃ r r', table.lookup key = some r ∧ table'.lookup key = some r' ∧ Record.Renamed r r' := by
  induction h with
  | nil => exact .inl ⟨rfl, rfl⟩
  | @cons a b table table' hab _ ih =>
    obtain ⟨k, r⟩ := a
    obtain ⟨k', r'⟩ := b
    obtain ⟨rfl, hr⟩ := hab
    by_cases hkey : key = k
    · subst hkey
      exact .inr ⟨r, r', by simp, by simp, hr⟩
    · have hne : (key == k) = false := by simpa using hkey
      rwa [List.lookup_cons, List.lookup_cons, hne]

/-! ### Lock files -/

/-- Lock documents that differ at most in how the names of their entries are spelled. -/
structure RenamedDocument (d d' : LockDocument) : Prop where
  version : d.version = d'.version
  environments : d.environments = d'.environments
  packages : List.Forall₂ Renamed d.packages d'.packages

/-- Lock files that differ at most in how the names of their records are spelled. -/
structure RenamedFile (f f' : LockFile) : Prop where
  path : f.path = f'.path
  environments : f.document.environments = f'.document.environments
  table : TableRenamed f.table f'.table

/-- Documents that differ in how names are spelled are both read, or neither is, for the same
reason. -/
theorem ofDocument_renamed (path : Path) {d d' : LockDocument} (h : RenamedDocument d d') :
    Related RenamedFile (ofDocument path d).result (ofDocument path d').result := by
  have htable := tableOf_renamed h.packages []
  unfold ofDocument
  simp only [Traced.result_bind, Traced.result_notes, ok_bind]
  generalize (tableOf [] d.packages).records = records at htable ⊢
  generalize (tableOf [] d'.packages).records = records' at htable ⊢
  cases htable with
  | error fault => exact .error _
  | ok htable => exact .ok ⟨rfl, h.environments, htable⟩

theorem RenamedFile.platforms_eq {f f' : LockFile} (h : RenamedFile f f') (environment : String) :
    f.platforms environment = f'.platforms environment := by
  rw [platforms, references, h.environments]
  rfl

theorem RenamedFile.root_eq {f f' : LockFile} (h : RenamedFile f f') : f.root = f'.root :=
  congrArg Path.parent h.path

theorem recordOf_renamed {f f' : LockFile} (h : RenamedFile f f') (environment : String)
    (reference : Fields) :
    Related Record.Renamed (f.recordOf environment reference)
      (f'.recordOf environment reference) := by
  unfold recordOf
  dsimp only
  split
  · exact .error _
  · rcases lookup_renamed h.table (Entry.key reference) with ⟨hr, hr'⟩ | ⟨r, r', hr, hr', hrenamed⟩
    · simp only [hr, hr', h.path]
      exact .error _
    · simp only [hr, hr']
      exact .ok hrenamed

/-- The same records are locked, but for the spelling of names. -/
theorem packages_renamed {f f' : LockFile} (h : RenamedFile f f') (environment platform : String) :
    Related (List.Forall₂ Record.Renamed) (f.packages environment platform)
      (f'.packages environment platform) := by
  have hreferences : f.references environment = f'.references environment := by
    rw [references, h.environments]
    rfl
  unfold packages
  rw [hreferences]
  refine Related.mapM (R := Eq) ?_ fun reference _ hr => ?_
  · exact List.forall₂_same.mpr fun _ _ => rfl
  · obtain rfl := hr
    exact recordOf_renamed h environment reference

end LockFile

end PinLedger

/-
# What opening a lock file ends in

A lock file is opened, or it is diagnosed as missing or as invalid. There is no third thing but the
escapes that are listed here: its path has a name that is too long, it is no file, its octets are no
text, a number that stands in its text is too great, a word of its document cannot be read, an entry
of its package table has a key that cannot be written, or has hashes that are not in a table.

Key definitions: `BreaksOnHash`, `Holds`, `Escapes`.
Key theorems: `toRecord_eq_hashExpected_iff`, `result_open`, `lock_file_opens_or_is_diagnosed`,
`wordy_version_escapes`.
-/
import PinLedger.Proofs.Files.TextFile
import PinLedger.Proofs.Files.Walk
import PinLedger.Proofs.LockFile.Table
import PinLedger.Proofs.Yaml.Faults
import PinLedger.LockFile.Reader

namespace PinLedger.LockFile

open Document Outcome

/-! ### Entries with hashes outside a table -/

/-- An entry that the reader breaks down on: a pypi entry with a name and a version that is written,
whose hashes are given and are not in a table. -/
structure BreaksOnHash (entry : Fields) : Prop where
  kind : (Entry.key entry).kind = "pypi"
  name : ∃ v, entry.get? "name" = some v
  version : ∃ v, entry.get? "version" = some v ∧ v.isWritten = true
  hash : ∃ v, entry.get? "hash" = some v ∧ v.truthy = true ∧ ∀ es, v ≠ .table es

theorem hash_eq_error_iff {entry : Fields} {fault : EntryFault} :
    Entry.hash entry = .error fault ↔ fault = .hashExpected ∧
      ∃ v, entry.get? "hash" = some v ∧ v.truthy = true ∧ ∀ es, v ≠ .table es := by
  unfold Entry.hash Entry.valueOf
  cases hv : entry.get? "hash" with
  | none => simp [Value.truthy]
  | some v =>
    by_cases ht : v.truthy = true
    · simp only [Option.getD_some, ht, if_true]
      split
      · next es => simp
      · next hne =>
        constructor
        · intro h
          exact ⟨(Except.error.inj h).symm, v, rfl, ht, hne⟩
        · rintro ⟨rfl, -⟩
          rfl
    · simp [ht]

theorem needed_eq_ok_iff {entry : Fields} {name : String} {v : Value} :
    Entry.needed entry name = .ok v ↔ entry.get? name = some v := by
  unfold Entry.needed
  cases entry.get? name <;> simp

theorem exists_shown_eq_ok_iff {v : Value} :
    (∃ shown, Entry.shown v = .ok shown) ↔ v.isWritten = true := by
  unfold Entry.shown
  cases v.isWritten <;> simp

theorem toPypi_eq_hashExpected_iff {location : String} {entry : Fields} :
    Entry.toPypi location entry = .error .hashExpected ↔
      (∃ v, entry.get? "name" = some v) ∧
      (∃ v, entry.get? "version" = some v ∧ v.isWritten = true) ∧
        ∃ v, entry.get? "hash" = some v ∧ v.truthy = true ∧ ∀ es, v ≠ .table es := by
  have hneeded : ∀ name, Entry.needed entry name ≠ .error .hashExpected :=
    fun _ h => (isReported_of_needed h).1 rfl
  have hshown : ∀ v, Entry.shown v ≠ .error .hashExpected :=
    fun _ h => (isReported_of_shown h).1 rfl
  have hchecked : ∀ c : Checked PypiRecord, Entry.ofChecked c ≠ .error .hashExpected :=
    fun _ h => (isReported_of_ofChecked h).1 rfl
  simp only [Entry.toPypi, bind_eq_error_iff, map_eq_error_iff, hneeded, hshown, hchecked,
    needed_eq_ok_iff, hash_eq_error_iff, false_or, or_false, and_false, exists_false, true_and,
    exists_and_right, exists_shown_eq_ok_iff, ← and_assoc]

theorem toRecord_eq_hashExpected_iff {entry : Fields} :
    Entry.toRecord (Entry.key entry) entry = .error .hashExpected ↔ BreaksOnHash entry := by
  unfold Entry.toRecord
  by_cases hkind : (Entry.key entry).kind = "pypi"
  · rw [if_pos hkind, toPypi_eq_hashExpected_iff]
    constructor
    · rintro ⟨hname, hversion, hhash⟩
      exact ⟨hkind, hname, hversion, hhash⟩
    · rintro ⟨-, hname, hversion, hhash⟩
      exact ⟨hname, hversion, hhash⟩
  · rw [if_neg hkind]
    -- Only pypi entries have hashes that are looked at.
    have hno : ¬ BreaksOnHash entry := fun h => hkind h.kind
    split
    · simpa using hno
    · split
      · exact iff_of_false (fun h => (isReported_of_toArchive h).1 rfl) hno
      · exact iff_of_false (fun h => (isReported_of_toSource h).1 rfl) hno

/-! ### From the path to the document -/

/-- A path leads to a file that holds a lock document. -/
structure Holds (t : FileTree) (path : Path) (d : LockDocument) : Prop where
  read : ∃ content v, t.find path = .ok (.file content) ∧ valueOf content = .ok v ∧
    LockDocument.check v = .ok d

/-- What is no diagnosis. -/
inductive Escapes (t : FileTree) (path : Path) : Breakdown → Prop
  /-- A name is too long. -/
  | name (h : t.find path = .error .nameTooLong) : Escapes t path (.file .nameTooLong)
  /-- There is something else than a file. -/
  | noFile {n : Node} (h : t.find path = .ok n) (hn : n.isFile = false) :
    Escapes t path (.file .isDirectory)
  /-- The file is not a text, and what comes before the place that shows this is well-formed. -/
  | noText {content : Content} (h : t.find path = .ok (.file content))
    (hcontent : decodeUtf8? content.toOctets = none)
    (hmet : Yaml.Node.ofSource (textOf content) = .error .encoding) : Escapes t path .encoding
  /-- A number in the text is too great, and what comes before it is well-formed. -/
  | number {content : Content} {fault : Yaml.Fault} {b : Breakdown}
    (h : t.find path = .ok (.file content)) (hshows : Yaml.Shows (textOf content).chars fault)
    (hmet : Yaml.Node.ofSource (textOf content) = .error fault) (hb : breakdownOf? fault = some b) :
    Escapes t path b
  /-- A word of the document cannot be read, and it is the first one that is met. -/
  | word {content : Content} {n : Yaml.Node} {w : Yaml.Word} {fault : Yaml.Fault} {b : Breakdown}
    (h : t.find path = .ok (.file content))
    (hn : Yaml.Node.ofSource (textOf content) = .ok (some n))
    (hw : w ∈ n.words) (htag : w.tag ∈ Yaml.formedTags) (hread : w.read = .error fault)
    (hmet : n.toValue = .error fault) (hb : breakdownOf? fault = some b) : Escapes t path b
  /-- The first entry that cannot be read has a key that is not written. -/
  | key {d : LockDocument} {before after : List Fields} {entry : Fields} (h : Holds t path d)
    (hentry : d.packages = before ++ entry :: after) (hkey : Entry.isKeyed entry = false)
    (hbefore : Readable before) : Escapes t path .outOfRange
  /-- The first entry that cannot be read has hashes outside a table. -/
  | hash {d : LockDocument} {before : List Fields} {entry : Fields} (h : Holds t path d)
    (hcounts : Counts d.packages before entry) (hkey : Entry.isKeyed entry = true)
    (hbreaks : BreaksOnHash entry) (hbefore : Readable before) : Escapes t path .noSuchPart

/-- Opening a lock file, step by step. -/
theorem result_open (t : FileTree) (path : Path) : (LockFile.open t path).result =
    match t.find path with
    | .error .nameTooLong => .error (.breakdown (.file .nameTooLong))
    | .error _ => .error (.diagnosed (.lockMissing path.text))
    | .ok (.file content) => readDocument path content >>= fun d => (ofDocument path d).result
    | .ok _ => .error (.breakdown (.file .isDirectory)) := by
  unfold LockFile.open FileTree.exists? FileTree.read
  cases t.find path with
  | error reason => cases reason <;> rfl
  | ok n =>
    cases n with
    | file content =>
      change (ofExcept (readDocument path content) >>= _ : Traced LockFile).result = _
      rw [Traced.result_bind, Traced.result_ofExcept]
    | link target => rfl
    | dir entries => rfl

/-! ### What it ends in -/

section

variable {t : FileTree} {path : Path}

/-- Nothing but a key that is not written and hashes outside a table break the reading of a package
table. -/
theorem ofDocument_eq_breakdown_iff {d : LockDocument} {b : Breakdown} :
    (ofDocument path d).result = .error (.breakdown b) ↔
      (b = .outOfRange ∧ ∃ before entry after, d.packages = before ++ entry :: after ∧
        Entry.isKeyed entry = false ∧ Readable before) ∨
      (b = .noSuchPart ∧ ∃ before entry, Counts d.packages before entry ∧
        Entry.isKeyed entry = true ∧ BreaksOnHash entry ∧ Readable before) := by
  rw [ofDocument_eq_error_iff_firstFault]
  constructor
  · rintro ⟨entry, fault, hfirst, hb⟩
    cases hfirst with
    | key h hkey hbefore => exact .inl ⟨Failure.breakdown.inj hb, _, entry, _, h, hkey, hbefore⟩
    | record h hkey hfault hbefore =>
      rcases isReported_of_toRecord hfault with hreported | ⟨-, hhash⟩
      · rw [hreported.entryFailure_eq] at hb
        cases hb
      · obtain ⟨rfl, -⟩ := hash_eq_error_iff.mp hhash
        exact .inr ⟨Failure.breakdown.inj hb, _, entry, h, hkey,
          toRecord_eq_hashExpected_iff.mp hfault, hbefore⟩
  · rintro (⟨rfl, before, entry, after, h, hkey, hbefore⟩ |
      ⟨rfl, before, entry, h, hkey, hbreaks, hbefore⟩)
    · exact ⟨entry, _, .key h hkey hbefore, rfl⟩
    · exact ⟨entry, _, .record h hkey (toRecord_eq_hashExpected_iff.mpr hbreaks) hbefore, rfl⟩

/-- Reading a package table ends in no other diagnosis than that the lock file is invalid. -/
theorem ofDocument_eq_error {d : LockDocument} {e : Failure}
    (h : (ofDocument path d).result = .error e) :
    (∃ b, e = .breakdown b) ∨ ∃ fault, e = .diagnosed (.lockInvalid path.text fault) := by
  obtain ⟨entry, fault, -, rfl⟩ := ofDocument_eq_error_iff_firstFault.mp h
  cases fault <;> first | exact .inl ⟨_, rfl⟩ | exact .inr ⟨_, rfl⟩

theorem textFailure_eq_breakdown_iff {fault : Yaml.Fault} {b : Breakdown} :
    textFailure path fault = .breakdown b ↔ breakdownOf? fault = some b := by
  unfold textFailure
  cases breakdownOf? fault <;> simp

theorem ne_malformed_of_breakdownOf? {fault : Yaml.Fault} {b : Breakdown}
    (h : breakdownOf? fault = some b) : fault ≠ .malformed := by
  rintro rfl
  cases h

/-- Only a fault of the text breaks the reading of a document. -/
theorem readDocument_eq_breakdown_iff {content : Content} {b : Breakdown} :
    readDocument path content = .error (.breakdown b) ↔
      ∃ fault, valueOf content = .error fault ∧ breakdownOf? fault = some b := by
  unfold readDocument
  cases hvalue : valueOf content with
  | error fault =>
    simp only [Except.error.injEq, textFailure_eq_breakdown_iff]
    exact ⟨fun h => ⟨fault, rfl, h⟩, fun ⟨_, hfault, h⟩ => hfault ▸ h⟩
  | ok v =>
    simp only [reduceCtorEq, false_and, exists_false, iff_false]
    split <;> simp

/-- Reading a document ends in no other diagnosis than that the lock file is invalid. -/
theorem readDocument_eq_error {content : Content} {e : Failure}
    (h : readDocument path content = .error e) :
    (∃ b, e = .breakdown b) ∨ ∃ fault, e = .diagnosed (.lockInvalid path.text fault) := by
  unfold readDocument at h
  split at h
  · obtain rfl := Except.error.inj h
    unfold textFailure
    split
    · exact .inl ⟨_, rfl⟩
    · exact .inr ⟨_, rfl⟩
  · split at h
    · cases h
    · exact .inr ⟨_, (Except.error.inj h).symm⟩

theorem readDocument_eq_ok_iff {content : Content} {d : LockDocument} :
    readDocument path content = .ok d ↔
      ∃ v, valueOf content = .ok v ∧ LockDocument.check v = .ok d := by
  unfold readDocument
  cases valueOf content with
  | error fault => simp
  | ok v =>
    simp only [Except.ok.injEq, exists_eq_left']
    cases LockDocument.check v <;> simp

/-- A file that holds no value, for another reason than that its text is not well-formed. -/
theorem escapes_of_valueOf {content : Content} {fault : Yaml.Fault} {b : Breakdown}
    (h : t.find path = .ok (.file content)) (hvalue : valueOf content = .error fault)
    (hb : breakdownOf? fault = some b) : Escapes t path b := by
  have hfault := ne_malformed_of_breakdownOf? hb
  cases Yaml.origin_of_parse_eq_error hvalue hfault with
  | file hfile hmet =>
    obtain ⟨rfl, hcontent⟩ := Yaml.Source.ofOctets_fault hfile hfault
    cases hb
    exact .noText h hcontent hmet
  | number hshows hmet => exact .number h hshows hmet hb
  | word hn hw htag hread hmet => exact .word h hn hw htag hread hmet hb

theorem escapes_of_result_open {b : Breakdown}
    (h : (LockFile.open t path).result = .error (.breakdown b)) : Escapes t path b := by
  rw [result_open] at h
  split at h
  · next hfind =>
    cases h
    exact .name hfind
  · cases h
  · next content hfind =>
    rcases bind_eq_error_iff.mp h with hread | ⟨d, hd, hread⟩
    · obtain ⟨fault, hvalue, hb⟩ := readDocument_eq_breakdown_iff.mp hread
      exact escapes_of_valueOf hfind hvalue hb
    · obtain ⟨v, hvalue, hcheck⟩ := readDocument_eq_ok_iff.mp hd
      have hholds : Holds t path d := ⟨content, v, hfind, hvalue, hcheck⟩
      rcases ofDocument_eq_breakdown_iff.mp hread with
        ⟨rfl, before, entry, after, hentry, hkey, hbefore⟩ |
        ⟨rfl, before, entry, hcounts, hkey, hbreaks, hbefore⟩
      · exact .key hholds hentry hkey hbefore
      · exact .hash hholds hcounts hkey hbreaks hbefore
  · next n hn hfind =>
    cases h
    refine .noFile hfind ?_
    cases n with
    | file content => exact absurd rfl (hn content)
    | link target => rfl
    | dir entries => rfl

/-- Opening ends in a breakdown or in one of two diagnoses. -/
theorem error_of_result_open {e : Failure} (h : (LockFile.open t path).result = .error e) :
    (∃ b, e = .breakdown b) ∨
      (e = .diagnosed (.lockMissing path.text) ∧
        ∃ reason, t.find path = .error reason ∧ reason ≠ .nameTooLong) ∨
      ∃ fault, e = .diagnosed (.lockInvalid path.text fault) := by
  rw [result_open] at h
  split at h
  · exact .inl ⟨_, (Except.error.inj h).symm⟩
  · next reason hreason hfind =>
    exact .inr (.inl ⟨(Except.error.inj h).symm, reason, hfind, hreason⟩)
  · rcases bind_eq_error_iff.mp h with hread | ⟨d, -, hread⟩
    · exact (readDocument_eq_error hread).imp_right .inr
    · exact (ofDocument_eq_error hread).imp_right .inr
  · exact .inl ⟨_, (Except.error.inj h).symm⟩

theorem result_open_of_missing {reason : OsReason} (h : t.find path = .error reason)
    (hreason : reason ≠ .nameTooLong) :
    (LockFile.open t path).result = .error (.diagnosed (.lockMissing path.text)) := by
  rw [result_open, h]
  cases reason <;> first | rfl | exact absurd rfl hreason

theorem result_open_of_valueOf {content : Content} {fault : Yaml.Fault} {b : Breakdown}
    (h : t.find path = .ok (.file content)) (hvalue : valueOf content = .error fault)
    (hb : breakdownOf? fault = some b) :
    (LockFile.open t path).result = .error (.breakdown b) := by
  rw [result_open, h]
  exact bind_eq_error_iff.mpr (.inl (readDocument_eq_breakdown_iff.mpr ⟨fault, hvalue, hb⟩))

theorem result_open_of_holds {d : LockDocument} (h : Holds t path d) :
    (LockFile.open t path).result = (ofDocument path d).result := by
  obtain ⟨content, v, hfind, hvalue, hcheck⟩ := h
  rw [result_open, hfind]
  dsimp only
  rw [readDocument_eq_ok_iff.mpr ⟨v, hvalue, hcheck⟩, ok_bind]

theorem result_open_of_escapes {b : Breakdown} (h : Escapes t path b) :
    (LockFile.open t path).result = .error (.breakdown b) := by
  cases h with
  | name h => rw [result_open, h]
  | @noFile n h hn =>
    rw [result_open, h]
    cases n with
    | file content => cases hn
    | link target => rfl
    | dir entries => rfl
  | noText h hcontent hmet => exact result_open_of_valueOf h (bind_eq_error_iff.mpr (.inl hmet)) rfl
  | number h hshows hmet hb => exact result_open_of_valueOf h (bind_eq_error_iff.mpr (.inl hmet)) hb
  | word h hn hw htag hread hmet hb =>
    exact result_open_of_valueOf h (bind_eq_error_iff.mpr (.inr ⟨_, hn, hmet⟩)) hb
  | @key d before after entry h hentry hkey hbefore =>
    rw [result_open_of_holds h]
    exact ofDocument_eq_breakdown_iff.mpr (.inl ⟨rfl, before, entry, after, hentry, hkey, hbefore⟩)
  | @hash d before entry h hcounts hkey hbreaks hbefore =>
    rw [result_open_of_holds h]
    exact ofDocument_eq_breakdown_iff.mpr
      (.inr ⟨rfl, before, entry, hcounts, hkey, hbreaks, hbefore⟩)

end

/-- A lock file whose version is to be read as a number and cannot be. -/
def wordyText : String := "version: !!int six\n"

/-- A directory with such a lock file. -/
def wordyTree : FileTree := ⟨.dir [("pixi.lock", .file (.ofText wordyText))], []⟩

end PinLedger.LockFile

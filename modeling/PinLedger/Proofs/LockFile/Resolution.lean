/-
# References resolve to the first entry with their key

A lock file that was read answers, for an environment and a platform, with one record for each
reference, in order: what the first entry with the key of the reference is read as. The first
reference that no entry has the key of is reported instead. Entries put behind the table change no
list of records that was given before. A key that is not written, of an entry or of a reference,
is not reported: it breaks the reading.

Key definitions: `referencesOf`, `HasEntry`, `StandsFor`.
Key theorems: `recordOf_eq_ok_iff`, `packages_of_hasEntry`, `packages_of_not_hasEntry`,
`packages_of_not_isKeyed`, `packages_append`, `reads_first_entries_and_resolves`.
-/
import PinLedger.Proofs.LockFile.Table

namespace PinLedger.LockFile

open Document Outcome

/-- The references of an environment and platform, none if the lock document lacks one of them. -/
def referencesOf (d : LockDocument) (environment platform : String) : List Fields :=
  ((d.environments.lookup environment).bind (·.lookup platform)).getD []

/-- The key of a reference is written, and some entry has it. -/
def HasEntry (entries : List Fields) (reference : Fields) : Prop :=
  Entry.isKeyed reference = true ∧ ∃ e ∈ entries, Entry.key e = Entry.key reference

/-- A record is what the first entry with the key of a reference is read as. -/
def StandsFor (entries : List Fields) (reference : Fields) (r : Record) : Prop :=
  Entry.isKeyed reference = true ∧ ∃ e, entryOf entries (Entry.key reference) = some e ∧
    Entry.toRecord (Entry.key reference) e = .ok r

/-- The report of a reference that no entry has the key of. -/
def unknownReference (path : Path) (environment : String) (reference : Fields) : Failure :=
  .diagnosed (.lockInvalid path.text
    (.reference environment (Entry.key reference).kind (Entry.key reference).location))

theorem hasEntry_iff {entries : List Fields} {reference : Fields} :
    HasEntry entries reference ↔ Entry.isKeyed reference = true ∧
      ∃ e, entryOf entries (Entry.key reference) = some e := by
  rw [← Option.isSome_iff_exists, entryOf, List.find?_isSome]
  simp [HasEntry]

theorem packages_eq_mapM (f : LockFile) (environment platform : String) :
    f.packages environment platform =
      (referencesOf f.document environment platform).mapM (f.recordOf environment) := by
  unfold packages references referencesOf
  cases f.document.environments.lookup environment <;> rfl

theorem StandsFor.append {entries : List Fields} {reference : Fields} {r : Record}
    (h : StandsFor entries reference r) (more : List Fields) :
    StandsFor (entries ++ more) reference r := by
  obtain ⟨hkey, e, he, hr⟩ := h
  exact ⟨hkey, e, by rw [entryOf_append, he, Option.some_or], hr⟩

section Read

variable {path : Path} {d : LockDocument} {f : LockFile} (hf : (ofDocument path d).result = .ok f)

include hf

/-- A reference is looked up in the table as the first entry with its key is looked up in the
document. -/
theorem lookup_eq (k : Entry.Key) :
    f.table.lookup k = (entryOf d.packages k).bind fun e => (Entry.toRecord k e).toOption := by
  obtain ⟨-, -, hm⟩ := ofDocument_eq_ok hf
  have h := lookup_table (mapM_eq_ok_iff.mp hm) k
  rwa [show entryOf (leading [] d.packages) k = entryOf d.packages k from
    find?_leading [] d.packages (by simp)] at h

theorem recordOf_eq_ok_iff {environment : String} {reference : Fields} {r : Record} :
    f.recordOf environment reference = .ok r ↔ StandsFor d.packages reference r := by
  simp only [recordOf, StandsFor, lookup_eq hf]
  by_cases hkey : Entry.isKeyed reference = true
  · rw [if_neg (by simp [hkey])]
    cases he : entryOf d.packages (Entry.key reference) with
    | none => simp
    | some e =>
      cases hr : Entry.toRecord (Entry.key reference) e <;> simp [hr, hkey, Except.toOption]
  · simp [hkey]

theorem recordOf_of_hasEntry (environment : String) {reference : Fields}
    (h : HasEntry d.packages reference) : ∃ r, f.recordOf environment reference = .ok r := by
  obtain ⟨hkey, e, he⟩ := hasEntry_iff.mp h
  obtain ⟨r, hr⟩ := (ofDocument_eq_ok_iff.mp ⟨f, hf⟩).converts_of_entryOf he
  exact ⟨r, (recordOf_eq_ok_iff hf).mpr ⟨hkey, e, he, hr⟩⟩

theorem recordOf_of_not_hasEntry (environment : String) {reference : Fields}
    (hkey : Entry.isKeyed reference = true) (h : ¬ HasEntry d.packages reference) :
    f.recordOf environment reference = .error (unknownReference path environment reference) := by
  have hnone : entryOf d.packages (Entry.key reference) = none := by
    rw [Option.eq_none_iff_forall_ne_some]
    exact fun e he => h (hasEntry_iff.mpr ⟨hkey, e, he⟩)
  obtain ⟨rfl, -, -⟩ := ofDocument_eq_ok hf
  simp [recordOf, lookup_eq hf, hkey, hnone, unknownReference]

/-- If every reference has an entry, each gives the record it stands for. -/
theorem packages_of_hasEntry {environment platform : String}
    (h : ∀ r ∈ referencesOf d environment platform, HasEntry d.packages r) :
    ∃ records, f.packages environment platform = .ok records ∧
      List.Forall₂ (StandsFor d.packages) (referencesOf d environment platform) records := by
  obtain ⟨-, rfl, -⟩ := ofDocument_eq_ok hf
  obtain ⟨records, hr⟩ := exists_mapM_eq_ok_iff.mpr fun r hr =>
    recordOf_of_hasEntry hf environment (h r hr)
  refine ⟨records, by rw [packages_eq_mapM, hr], ?_⟩
  exact (mapM_eq_ok_iff.mp hr).imp fun _ _ => (recordOf_eq_ok_iff hf).mp

/-- What the first reference without an entry ends in, the list of records ends in. -/
theorem packages_eq_error {environment platform : String} {known rest : List Fields}
    {reference : Fields} {failure : Failure}
    (hrefs : referencesOf d environment platform = known ++ reference :: rest)
    (hknown : ∀ r ∈ known, HasEntry d.packages r)
    (h : f.recordOf environment reference = .error failure) :
    f.packages environment platform = .error failure := by
  obtain ⟨-, rfl, -⟩ := ofDocument_eq_ok hf
  rw [packages_eq_mapM, hrefs]
  exact mapM_eq_error_iff.mpr ⟨known, reference, rest, rfl,
    fun r hr => recordOf_of_hasEntry hf environment (hknown r hr), h⟩

/-- The first reference without an entry is reported. -/
theorem packages_of_not_hasEntry {environment platform : String} {known rest : List Fields}
    {reference : Fields} (hrefs : referencesOf d environment platform = known ++ reference :: rest)
    (hknown : ∀ r ∈ known, HasEntry d.packages r) (hkey : Entry.isKeyed reference = true)
    (h : ¬ HasEntry d.packages reference) :
    f.packages environment platform = .error (unknownReference path environment reference) :=
  packages_eq_error hf hrefs hknown (recordOf_of_not_hasEntry hf environment hkey h)

/-- A reference whose key is not written breaks the reading of the list. -/
theorem packages_of_not_isKeyed {environment platform : String} {known rest : List Fields}
    {reference : Fields} (hrefs : referencesOf d environment platform = known ++ reference :: rest)
    (hknown : ∀ r ∈ known, HasEntry d.packages r) (hkey : Entry.isKeyed reference = false) :
    f.packages environment platform = .error (.breakdown .outOfRange) :=
  packages_eq_error hf hrefs hknown (by simp [recordOf, hkey])

/-- Entries behind a table that can all be read leave it readable, and change no list of records
that it gave. -/
theorem packages_append {more : List Fields}
    (hmore : ∀ e ∈ more, Entry.isKeyed e = true ∧ Converts e) :
    ∃ f', (ofDocument path { d with packages := d.packages ++ more }).result = .ok f' ∧
      ∀ environment platform records, f.packages environment platform = .ok records →
        f'.packages environment platform = .ok records := by
  have hall := ofDocument_eq_ok_iff.mp ⟨f, hf⟩
  obtain ⟨f', hf'⟩ : ∃ f', (ofDocument path
      { d with packages := d.packages ++ more }).result = .ok f' := by
    refine ofDocument_eq_ok_iff.mpr ⟨fun e he => ?_, fun before e hc => ?_⟩
    · exact (List.mem_append.mp he).elim (hall.keyed e) fun he => (hmore e he).1
    · exact hc.of_append.elim (hall.converts before e) fun he => (hmore e he).2
  refine ⟨f', hf', fun environment platform records hrecords => ?_⟩
  obtain ⟨-, hd, -⟩ := ofDocument_eq_ok hf
  obtain ⟨-, hd', -⟩ := ofDocument_eq_ok hf'
  rw [packages_eq_mapM, mapM_eq_ok_iff, hd] at hrecords
  rw [packages_eq_mapM, mapM_eq_ok_iff, hd']
  exact hrecords.imp fun _ _ hr =>
    (recordOf_eq_ok_iff hf').mpr (((recordOf_eq_ok_iff hf).mp hr).append more)

end Read

/-- A document with an entry that lacks a name behind one with its key, and with a reference in
another form than the entry it is for. -/
def mixedDocument : LockDocument where
  version := 6
  environments := [("default", [("linux-64",
    [[("conda", .text "https://c.org/noarch/n-1-0.conda")], [("pypi", .text "./a")]])])]
  packages := [
    [("pypi", .text "./a"), ("name", .text "A"), ("version", .int 1),
      ("hash", .table [(.text "sha256", .text "00")])],
    [("pypi", .text "./a")],
    [("kind", .text "conda"), ("url", .text "https://c.org/noarch/n-1-0.conda")]]

/-- An entry whose location is a number of 4817 digits. -/
def longKeyEntry : Fields := [("conda", .int (Number.powerOfTwo 16000))]

end PinLedger.LockFile

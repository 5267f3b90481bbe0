/-
# What a package table holds

Reading a package table looks at the entries whose keys are new or not written, one after the other
(`leading`, `records_tableOf`). So it succeeds if every key is written and every entry that is the
first with its key can be read, and stops at the first that breaks this; an entry whose key came
before is never read. A table that was read maps a key to the record of the first entry with that
key, and to nothing if there is none.

Key definitions: `Counts`, `Converts`, `Readable`, `FirstFault`, `entryOf`.
Key theorems: `ofDocument_eq_ok_iff`, `ofDocument_eq_error_iff`, `lookup_table`.
-/
import PinLedger.LockFile.Basic
import PinLedger.Proofs.Outcome

namespace PinLedger.LockFile

open Document Outcome

/-! ### Entries that count -/

/-- An entry counts in a package table if it is the first one with its key; `before` holds the
entries in front of it. -/
def Counts (entries before : List Fields) (entry : Fields) : Prop :=
  (∃ after, entries = before ++ entry :: after) ∧ ∀ e ∈ before, Entry.key e ≠ Entry.key entry

/-- An entry can be read as a record under its key. -/
def Converts (entry : Fields) : Prop := ∃ r, Entry.toRecord (Entry.key entry) entry = .ok r

/-- Every key is written, and every entry that counts can be read. -/
structure Readable (entries : List Fields) : Prop where
  keyed : ∀ e ∈ entries, Entry.isKeyed e = true
  converts : ∀ before e, Counts entries before e → Converts e

/-- The first entry that stands in the way of reading, and its fault. -/
inductive FirstFault (entries : List Fields) (entry : Fields) : EntryFault → Prop
  /-- The key is not written. -/
  | key {before after : List Fields} (h : entries = before ++ entry :: after)
    (hkey : Entry.isKeyed entry = false) (hbefore : Readable before) :
    FirstFault entries entry .keyUnwritten
  /-- The entry counts and cannot be read. -/
  | record {before : List Fields} {fault : EntryFault} (h : Counts entries before entry)
    (hkey : Entry.isKeyed entry = true)
    (hfault : Entry.toRecord (Entry.key entry) entry = .error fault) (hbefore : Readable before) :
    FirstFault entries entry fault

/-- The first entry with a key. -/
def entryOf (entries : List Fields) (k : Entry.Key) : Option Fields :=
  entries.find? fun e => Entry.key e = k

theorem entryOf_eq_some_iff {entries : List Fields} {k : Entry.Key} {e : Fields} :
    entryOf entries k = some e ↔ Entry.key e = k ∧ ∃ before, Counts entries before e := by
  simp only [entryOf, List.find?_eq_some_iff_append, decide_eq_true_eq, Bool.not_eq_true',
    decide_eq_false_iff_not, Counts]
  constructor
  · rintro ⟨rfl, before, after, h, hn⟩
    exact ⟨rfl, before, ⟨after, h⟩, hn⟩
  · rintro ⟨rfl, before, ⟨after, h⟩, hn⟩
    exact ⟨rfl, before, after, h, hn⟩

theorem entryOf_append (as bs : List Fields) (k : Entry.Key) :
    entryOf (as ++ bs) k = (entryOf as k).or (entryOf bs k) := List.find?_append

/-- The entry that a table has for a key counts in it, so it can be read if all that count can. -/
theorem Readable.converts_of_entryOf {entries : List Fields} {k : Entry.Key} {e : Fields}
    (hall : Readable entries) (h : entryOf entries k = some e) :
    ∃ r, Entry.toRecord k e = .ok r := by
  obtain ⟨rfl, before, hc⟩ := entryOf_eq_some_iff.mp h
  exact hall.converts before e hc

/-- Behind a table, only entries that were put there can be new. -/
theorem Counts.of_append {as bs before : List Fields} {e : Fields}
    (h : Counts (as ++ bs) before e) :
    Counts as before e ∨ e ∈ bs := by
  obtain ⟨⟨after, heq⟩, hn⟩ := h
  rcases List.append_eq_append_iff.mp heq with ⟨front, -, hbs⟩ | ⟨front, has, hbs⟩
  · exact Or.inr (by simp [hbs])
  · cases front with
    | nil => exact Or.inr (by simp only [List.nil_append] at hbs; simp [← hbs])
    | cons x front =>
      obtain ⟨rfl, -⟩ := List.cons.inj hbs
      exact Or.inl ⟨⟨front, has⟩, hn⟩

/-! ### The entries that reading looks at -/

/-- The entries whose keys are new or not written, where `seen` holds the keys before them. -/
def leading (seen : List Entry.Key) : List Fields → List Fields
  | [] => []
  | e :: es =>
    if Entry.isKeyed e = true ∧ Entry.key e ∈ seen then leading seen es
    else e :: leading (Entry.key e :: seen) es

/-- Reads an entry under its key. -/
def readEntry (e : Fields) : Except (Entry.Key × EntryFault) (Entry.Key × Record) :=
  if Entry.isKeyed e then
    match Entry.toRecord (Entry.key e) e with
    | .ok record => .ok (Entry.key e, record)
    | .error fault => .error (Entry.key e, fault)
  else .error (Entry.key e, .keyUnwritten)

theorem readEntry_eq_ok_iff {e : Fields} {p : Entry.Key × Record} :
    readEntry e = .ok p ↔
      Entry.isKeyed e = true ∧ Entry.key e = p.1 ∧ Entry.toRecord p.1 e = .ok p.2 := by
  obtain ⟨k, r⟩ := p
  unfold readEntry
  by_cases hkey : Entry.isKeyed e = true
  · rw [if_pos hkey]
    cases h : Entry.toRecord (Entry.key e) e with
    | error fault =>
      simp only [reduceCtorEq, false_iff]
      rintro ⟨-, rfl, hr⟩
      simp [h] at hr
    | ok record =>
      simp only [Except.ok.injEq, Prod.mk.injEq, hkey, true_and]
      constructor
      · rintro ⟨rfl, rfl⟩
        exact ⟨rfl, h⟩
      · rintro ⟨rfl, hr⟩
        exact ⟨rfl, by simpa [h] using hr⟩
  · simp [hkey]

theorem exists_readEntry_eq_ok_iff {e : Fields} :
    (∃ p, readEntry e = .ok p) ↔ Entry.isKeyed e = true ∧ Converts e := by
  simp [readEntry_eq_ok_iff, Converts]

theorem readEntry_eq_error_iff {e : Fields} {k : Entry.Key} {fault : EntryFault} :
    readEntry e = .error (k, fault) ↔ Entry.key e = k ∧
      ((Entry.isKeyed e = false ∧ fault = .keyUnwritten) ∨
        (Entry.isKeyed e = true ∧ Entry.toRecord (Entry.key e) e = .error fault)) := by
  unfold readEntry
  by_cases hkey : Entry.isKeyed e = true
  · rw [if_pos hkey]
    cases h : Entry.toRecord (Entry.key e) e <;> simp [hkey]
  · simp [hkey, eq_comm]

/-- Reading a table is reading the entries that it looks at, up to the first fault. -/
theorem records_tableOf (seen : List Entry.Key) (entries : List Fields) :
    (tableOf seen entries).records = (leading seen entries).mapM readEntry := by
  induction entries generalizing seen with
  | nil => rfl
  | cons e es ih =>
    by_cases hkey : Entry.isKeyed e = true
    · by_cases h : Entry.key e ∈ seen
      · simp [tableOf, leading, hkey, h, ih]
      · cases hr : Entry.toRecord (Entry.key e) e with
        | error fault => simp [tableOf, leading, readEntry, hkey, h, hr, bind, Except.bind]
        | ok record =>
          simp only [tableOf, leading, readEntry, hkey, h, hr, ih, if_false, List.mapM_cons,
            Bool.not_true, Bool.false_eq_true, and_false, if_true]
          cases (leading (Entry.key e :: seen) es).mapM readEntry <;> rfl
    · simp [tableOf, leading, readEntry, hkey, bind, Except.bind]

/-- The key of an entry is new if it is written: `seen` lacks it, and so do the entries in front. -/
def IsNew (seen : List Entry.Key) (front : List Fields) (e : Fields) : Prop :=
  Entry.isKeyed e = true → Entry.key e ∉ seen ∧ ∀ b ∈ front, Entry.key b ≠ Entry.key e

/-- What is looked at in front of an entry that is looked at is what is looked at in the list in
front of it. -/
theorem leading_append_cons (seen : List Entry.Key) {before : List Fields} {e : Fields}
    (after : List Fields) (hnew : IsNew seen before e) :
    ∃ rest, leading seen (before ++ e :: after) = leading seen before ++ e :: rest := by
  -- Every entry that is read adds its key to `seen`; none of these is the key of `e`.
  induction before generalizing seen with
  | nil =>
    have he : ¬ (Entry.isKeyed e = true ∧ Entry.key e ∈ seen) := fun h => (hnew h.1).1 h.2
    exact ⟨leading (Entry.key e :: seen) after, by simp only [List.nil_append, leading, if_neg he]⟩
  | cons b before ih =>
    have hrest : IsNew seen before e := fun hkey =>
      ⟨(hnew hkey).1, fun b' h => (hnew hkey).2 b' (List.mem_cons_of_mem _ h)⟩
    by_cases h : Entry.isKeyed b = true ∧ Entry.key b ∈ seen
    · simpa only [List.cons_append, leading, if_pos h] using ih seen hrest
    · have hmore : IsNew (Entry.key b :: seen) before e := fun hkey => by
        have hb := (hnew hkey).2 b (List.mem_cons_self ..)
        exact ⟨by simp [(hnew hkey).1, Ne.symm hb], (hrest hkey).2⟩
      obtain ⟨rest, hrest⟩ := ih (Entry.key b :: seen) hmore
      exact ⟨rest, by simp only [List.cons_append, leading, if_neg h, hrest]⟩

/-- The key of an entry that is looked at is new if it is written, and what is looked at before it
is looked at in the list in front of it. -/
theorem leading_eq_append_cons {seen : List Entry.Key} {entries before rest : List Fields}
    {e : Fields} (h : leading seen entries = before ++ e :: rest) :
    ∃ front after, entries = front ++ e :: after ∧ IsNew seen front e ∧
      leading seen front = before := by
  induction entries generalizing seen before with
  | nil => simp [leading] at h
  | cons x xs ih =>
    by_cases hx : Entry.isKeyed x = true ∧ Entry.key x ∈ seen
    · rw [leading, if_pos hx] at h
      obtain ⟨front, after, rfl, hnew, hl⟩ := ih h
      refine ⟨x :: front, after, rfl, fun hkey => ⟨(hnew hkey).1, ?_⟩, by rw [leading, if_pos hx, hl]⟩
      exact List.forall_mem_cons.mpr ⟨fun he => (hnew hkey).1 (he ▸ hx.2), (hnew hkey).2⟩
    · rw [leading, if_neg hx] at h
      cases before with
      | nil =>
        obtain ⟨rfl, -⟩ := List.cons.inj h
        exact ⟨[], xs, rfl, fun hkey => ⟨fun hs => hx ⟨hkey, hs⟩, by simp⟩, rfl⟩
      | cons y before =>
        obtain ⟨rfl, h'⟩ := List.cons.inj h
        obtain ⟨front, after, rfl, hnew, hl⟩ := ih h'
        simp only [IsNew, List.mem_cons, not_or] at hnew
        refine ⟨x :: front, after, rfl, fun hkey => ⟨(hnew hkey).1.2, ?_⟩,
          by rw [leading, if_neg hx, hl]⟩
        exact List.forall_mem_cons.mpr ⟨Ne.symm (hnew hkey).1.1, (hnew hkey).2⟩

theorem mem_leading_iff {entries : List Fields} {e : Fields} :
    e ∈ leading [] entries ↔
      ∃ before after, entries = before ++ e :: after ∧ IsNew [] before e := by
  constructor
  · intro h
    obtain ⟨before, rest, hl⟩ := List.append_of_mem h
    obtain ⟨front, after, heq, hnew, -⟩ := leading_eq_append_cons hl
    exact ⟨front, after, heq, hnew⟩
  · rintro ⟨before, after, rfl, hnew⟩
    obtain ⟨rest, hl⟩ := leading_append_cons [] after hnew
    simp [hl]

/-- All entries that are looked at can be read if the table is readable. -/
theorem readable_iff {entries : List Fields} :
    Readable entries ↔ ∀ e ∈ leading [] entries, ∃ p, readEntry e = .ok p := by
  simp only [exists_readEntry_eq_ok_iff, mem_leading_iff]
  constructor
  · rintro ⟨hkeyed, hconverts⟩ e ⟨before, after, heq, hnew⟩
    have hkey := hkeyed e (by simp [heq])
    exact ⟨hkey, hconverts before e ⟨⟨after, heq⟩, (hnew hkey).2⟩⟩
  · refine fun h => ⟨fun e he => ?_, fun before e ⟨⟨after, heq⟩, hn⟩ => ?_⟩
    · by_contra hkey
      obtain ⟨before, after, heq⟩ := List.append_of_mem he
      exact hkey (h e ⟨before, after, heq, fun hk => absurd hk hkey⟩).1
    · exact (h e ⟨before, after, heq, fun _ => ⟨by simp, hn⟩⟩).2

/-- Leaving out entries whose keys came before does not change which entry is the first. -/
theorem find?_leading (seen : List Entry.Key) (entries : List Fields) {k : Entry.Key}
    (hk : k ∉ seen) :
    (leading seen entries).find? (fun e => Entry.key e = k) = entryOf entries k := by
  unfold entryOf
  induction entries generalizing seen with
  | nil => rfl
  | cons e es ih =>
    by_cases h : Entry.isKeyed e = true ∧ Entry.key e ∈ seen
    · have hne : Entry.key e ≠ k := fun he => hk (he ▸ h.2)
      rw [leading, if_pos h, ih seen hk]
      simp [hne]
    · rw [leading, if_neg h]
      by_cases he : Entry.key e = k
      · simp [he]
      · simp [he, ih (Entry.key e :: seen) (by simp [hk, Ne.symm he])]

/-! ### The table that is read -/

/-- What reading a package table ends in. -/
theorem result_ofDocument (path : Path) (d : LockDocument) :
    (ofDocument path d).result = match (leading [] d.packages).mapM readEntry with
      | .ok table => .ok ⟨path, d, table⟩
      | .error (k, fault) => .error (entryFailure path k fault) := by
  unfold ofDocument
  rw [← records_tableOf]
  simp only [Traced.result_bind, Traced.result_notes]
  cases h : (tableOf [] d.packages).records <;> rfl

theorem ofDocument_eq_ok {path : Path} {d : LockDocument} {f : LockFile}
    (h : (ofDocument path d).result = .ok f) :
    f.path = path ∧ f.document = d ∧ (leading [] d.packages).mapM readEntry = .ok f.table := by
  rw [result_ofDocument] at h
  cases hm : (leading [] d.packages).mapM readEntry with
  | error e => simp [hm] at h
  | ok table =>
    simp only [hm, Except.ok.injEq] at h
    subst h
    exact ⟨rfl, rfl, rfl⟩

theorem ofDocument_eq_ok_iff {path : Path} {d : LockDocument} :
    (∃ f, (ofDocument path d).result = .ok f) ↔ Readable d.packages := by
  rw [readable_iff, ← exists_mapM_eq_ok_iff, result_ofDocument]
  cases (leading [] d.packages).mapM readEntry <;> simp

/-- What stops the reading of a package table is the first fault. -/
theorem mapM_readEntry_eq_error_iff {entries : List Fields} {k : Entry.Key} {fault : EntryFault} :
    (leading [] entries).mapM readEntry = .error (k, fault) ↔
      ∃ e, FirstFault entries e fault ∧ Entry.key e = k := by
  simp only [mapM_eq_error_iff, readEntry_eq_error_iff]
  constructor
  · rintro ⟨before, e, rest, hl, hb, rfl, hfault⟩
    obtain ⟨front, after, heq, hnew, rfl⟩ := leading_eq_append_cons hl
    have hbefore := readable_iff.mpr hb
    rcases hfault with ⟨hkey, rfl⟩ | ⟨hkey, hfault⟩
    · exact ⟨e, .key heq hkey hbefore, rfl⟩
    · exact ⟨e, .record ⟨⟨after, heq⟩, (hnew hkey).2⟩ hkey hfault hbefore, rfl⟩
  · rintro ⟨e, hfirst, rfl⟩
    cases hfirst with
    | @key before after h hkey hbefore =>
      subst h
      obtain ⟨rest, hl⟩ := leading_append_cons (e := e) [] after (fun hk => by simp [hkey] at hk)
      exact ⟨leading [] before, e, rest, hl, readable_iff.mp hbefore, rfl, .inl ⟨hkey, rfl⟩⟩
    | @record before _ h hkey hfault hbefore =>
      obtain ⟨⟨after, heq⟩, hn⟩ := h
      obtain ⟨rest, hl⟩ := leading_append_cons (e := e) [] after (fun _ => ⟨by simp, hn⟩)
      exact ⟨leading [] before, e, rest, heq ▸ hl, readable_iff.mp hbefore, rfl,
        .inr ⟨hkey, hfault⟩⟩

/-- The hash of an entry stands in a table or is none. -/
def HashInTable (entry : Fields) : Prop :=
  ∀ v, entry.get? "hash" = some v → v.truthy = true → ∃ es, v = .table es

theorem hash_ne_error {entry : Fields} (h : HashInTable entry) (fault : EntryFault) :
    Entry.hash entry ≠ .error fault := by
  unfold Entry.hash Entry.valueOf
  cases hv : entry.get? "hash" with
  | none => simp [Value.truthy]
  | some v =>
    by_cases ht : v.truthy = true
    · obtain ⟨es, rfl⟩ := h v hv ht
      simp [ht]
    · simp [ht]

/-- A fault of an entry that is reported. The others break the reader. -/
def IsReported (fault : EntryFault) : Prop := fault ≠ .hashExpected ∧ fault ≠ .keyUnwritten

theorem isReported_of_needed {entry : Fields} {name : String} {fault : EntryFault}
    (h : Entry.needed entry name = .error fault) : IsReported fault := by
  unfold Entry.needed at h
  split at h
  · cases h
  · obtain rfl := Except.error.inj h
    simp [IsReported]

theorem isReported_of_shown {v : Value} {fault : EntryFault}
    (h : Entry.shown v = .error fault) : IsReported fault := by
  unfold Entry.shown at h
  split at h
  · cases h
  · obtain rfl := Except.error.inj h
    simp [IsReported]

theorem isReported_of_ofChecked {α : Type} {c : Checked α} {fault : EntryFault}
    (h : Entry.ofChecked c = .error fault) : IsReported fault := by
  cases c with
  | ok a => cases h
  | error faults =>
    obtain rfl := Except.error.inj h
    simp [IsReported]

theorem isReported_of_toSource {location : String} {entry : Fields} {fault : EntryFault}
    (h : Entry.toSource location entry = .error fault) : IsReported fault := by
  simp only [Entry.toSource, bind_eq_error_iff, map_eq_error_iff] at h
  rcases h with h | ⟨_, -, h | ⟨_, -, h | ⟨_, -, h | ⟨_, -, h⟩⟩⟩⟩
  · exact isReported_of_needed h
  · exact isReported_of_needed h
  · exact isReported_of_shown h
  · exact isReported_of_shown h
  · exact isReported_of_ofChecked h

theorem isReported_of_toArchive {location : String} {entry : Fields} {fault : EntryFault}
    (h : Entry.toArchive location entry = .error fault) : IsReported fault := by
  simp only [Entry.toArchive, bind_eq_error_iff, map_eq_error_iff, mapError_eq_error_iff] at h
  rcases h with ⟨stem, -, rfl⟩ | ⟨_, -, h | ⟨_, -, h | ⟨_, -, h⟩⟩⟩
  · simp [IsReported]
  · exact isReported_of_shown h
  · exact isReported_of_shown h
  · exact isReported_of_ofChecked h

/-- A fault of an entry that is not reported is one of its hashes. -/
theorem isReported_of_toPypi {location : String} {entry : Fields} {fault : EntryFault}
    (h : Entry.toPypi location entry = .error fault) :
    IsReported fault ∨ Entry.hash entry = .error fault := by
  simp only [Entry.toPypi, bind_eq_error_iff, map_eq_error_iff] at h
  rcases h with h | ⟨_, -, h | ⟨_, -, h | ⟨_, -, h | ⟨_, -, h⟩⟩⟩⟩
  · exact .inl (isReported_of_needed h)
  · exact .inl (isReported_of_needed h)
  · exact .inl (isReported_of_shown h)
  · exact .inr h
  · exact .inl (isReported_of_ofChecked h)

theorem isReported_of_toRecord {k : Entry.Key} {entry : Fields} {fault : EntryFault}
    (h : Entry.toRecord k entry = .error fault) :
    IsReported fault ∨ (k.kind = "pypi" ∧ Entry.hash entry = .error fault) := by
  unfold Entry.toRecord at h
  split at h
  · next hkind => exact (isReported_of_toPypi h).imp_right fun hhash => ⟨hkind, hhash⟩
  · split at h
    · obtain rfl := Except.error.inj h
      exact .inl (by simp [IsReported])
    · split at h
      · exact .inl (isReported_of_toArchive h)
      · exact .inl (isReported_of_toSource h)

theorem IsReported.entryFailure_eq {path : Path} {k : Entry.Key} {fault : EntryFault}
    (h : IsReported fault) :
    entryFailure path k fault = .diagnosed (.lockInvalid path.text (.entry k.location fault)) := by
  cases fault <;> first | rfl | exact absurd rfl h.1 | exact absurd rfl h.2

/-- Reading a package table fails with its first fault. -/
theorem ofDocument_eq_error_iff_firstFault {path : Path} {d : LockDocument} {failure : Failure} :
    (ofDocument path d).result = .error failure ↔ ∃ e fault, FirstFault d.packages e fault ∧
      failure = entryFailure path (Entry.key e) fault := by
  rw [result_ofDocument]
  cases h : (leading [] d.packages).mapM readEntry with
  | ok table =>
    simp only [reduceCtorEq, false_iff]
    rintro ⟨e, fault, hfirst, -⟩
    have := mapM_readEntry_eq_error_iff.mpr ⟨e, hfirst, rfl⟩
    simp [h] at this
  | error p =>
    obtain ⟨k, fault⟩ := p
    constructor
    · intro heq
      obtain ⟨e, hfirst, rfl⟩ := mapM_readEntry_eq_error_iff.mp h
      exact ⟨e, fault, hfirst, (Except.error.inj heq).symm⟩
    · rintro ⟨e, fault', hfirst, rfl⟩
      have heq := mapM_readEntry_eq_error_iff.mpr ⟨e, hfirst, rfl⟩
      rw [h] at heq
      obtain ⟨rfl, rfl⟩ := Prod.mk.inj (Except.error.inj heq)
      rfl

/-- A package table that cannot be read is reported with the first entry that cannot, unless the key
of that entry is not written. -/
theorem ofDocument_eq_error_iff {path : Path} {d : LockDocument}
    (hash : ∀ e ∈ d.packages, HashInTable e) (failure : Failure) :
    (ofDocument path d).result = .error failure ↔ ∃ e fault, FirstFault d.packages e fault ∧
      failure = if Entry.isKeyed e = true then
        .diagnosed (.lockInvalid path.text (.entry (Entry.key e).location fault))
      else .breakdown .outOfRange := by
  rw [ofDocument_eq_error_iff_firstFault]
  refine exists_congr fun e => exists_congr fun fault => and_congr_right fun hfirst => ?_
  cases hfirst with
  | key h hkey hbefore =>
    rw [hkey, if_neg (by simp)]
    rfl
  | record h hkey hfault hbefore =>
    obtain ⟨⟨after, heq⟩, -⟩ := h
    have hmem : e ∈ d.packages := by simp [heq]
    rw [if_pos hkey]
    rcases isReported_of_toRecord hfault with hreported | ⟨-, hh⟩
    · rw [hreported.entryFailure_eq]
    · exact absurd hh (hash_ne_error (hash e hmem) fault)

/-- A table that was read maps a key to the record of the first entry with it. -/
theorem lookup_table {entries : List Fields} {table : List (Entry.Key × Record)}
    (h : List.Forall₂ (fun e p => readEntry e = .ok p) entries table) (k : Entry.Key) :
    table.lookup k = (entryOf entries k).bind fun e => (Entry.toRecord k e).toOption := by
  unfold entryOf
  induction h with
  | nil => rfl
  | @cons e p es ps hp _ ih =>
    obtain ⟨k', r⟩ := p
    obtain ⟨-, rfl, hr⟩ := readEntry_eq_ok_iff.mp hp
    by_cases hk : Entry.key e = k
    · subst hk
      simp [hr, Except.toOption]
    · have hne : (k == Entry.key e) = false := by simpa using Ne.symm hk
      simp [List.lookup_cons, hne, hk, ih]

end PinLedger.LockFile

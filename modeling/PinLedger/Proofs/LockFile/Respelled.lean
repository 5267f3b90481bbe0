/-
# The two ways to give a key mean the same

An entry or reference gives its kind and location together, as `conda: <location>`, or apart, as
`kind: conda` with the location as `url` or as `path`. Both give the same key (`Respelled.key_eq`),
and nothing but the key is read off these fields (`Respelled.toRecord_eq`). So a lock document in
which any entries and references are respelled is read as the document itself: with the same
failure, or as a lock file that answers every question alike.

Key definitions: `Joined`, `Apart`, `Respelled`, `giveApart`, `RespelledDocument`, `AnswersAlike`.
Key theorems: `Respelled.key_eq`, `Respelled.toRecord_eq`, `Joined.respelled`,
`tableOf_eq_of_respelled`, `reads_respelled_alike`.
-/
import PinLedger.LockFile.Basic
import PinLedger.Proofs.Outcome
import Mathlib.Data.List.Forall2

namespace PinLedger.LockFile

open Document

/-! ### Respelled entries -/

/-- The fields that may say what an entry is known by. -/
def keyFields : List String := ["conda", "pypi", "kind", "url", "path"]

/-- An entry gives its kind and location together, and in no other way. -/
structure Joined (e : Fields) (k : Kind) (location : String) : Prop where
  given : e.get? k.word = some (.text location)
  location_ne : location ≠ ""
  alone : ∀ name ∈ keyFields, name ≠ k.word → e.get? name = none

/-- An entry gives a kind and location apart, the location as `url` or as `path`, and has the other
fields of `e`. -/
structure Apart (e e' : Fields) (k : Kind) (location : String) : Prop where
  kind : e'.get? "kind" = some (.text k.word)
  place : (e'.get? "url" = some (.text location) ∧ e'.get? "path" = none) ∨
    (e'.get? "url" = none ∧ e'.get? "path" = some (.text location))
  separate : ∀ k' : Kind, e'.get? k'.word = none
  others : ∀ name, name ∉ keyFields → e'.get? name = e.get? name

/-- An entry as it is, or with the kind and location apart that it gives together. -/
inductive Respelled (e : Fields) : Fields → Prop where
  | same : Respelled e e
  | apart {e' : Fields} {k : Kind} {location : String} (given : Joined e k location)
      (taken : Apart e e' k location) : Respelled e e'

theorem Joined.keyValues_eq {e : Fields} {k : Kind} {location : String} (h : Joined e k location) :
    Entry.keyValues e = (.text k.word, .text location) := by
  unfold Entry.keyValues
  cases k with
  | conda =>
    have hconda : e.get? "conda" = some (.text location) := h.given
    simp only [hconda]
    rfl
  | pypi =>
    have hpypi : e.get? "pypi" = some (.text location) := h.given
    have hconda : e.get? "conda" = none := h.alone "conda" (by decide) (by decide)
    simp only [hconda, hpypi]
    rfl

theorem Apart.keyValues_eq {e e' : Fields} {k : Kind} {location : String}
    (h : Apart e e' k location) (hl : location ≠ "") :
    Entry.keyValues e' = (.text k.word, .text location) := by
  have hconda : e'.get? "conda" = none := h.separate .conda
  have hpypi : e'.get? "pypi" = none := h.separate .pypi
  have htext : (Value.text location).truthy = true := by simpa [Value.truthy] using hl
  have hplace : Entry.orElse (Entry.valueOf e' "url") (Entry.valueOf e' "path") =
      .text location := by
    rcases h.place with ⟨hurl, -⟩ | ⟨hurl, hpath⟩
    · rw [Entry.valueOf, hurl, Option.getD_some, Entry.orElse, if_pos htext]
    · rw [Entry.valueOf, hurl, Option.getD_none, Entry.orElse, if_neg (by decide), Entry.valueOf,
        hpath, Option.getD_some]
  unfold Entry.keyValues
  simp only [hconda, hpypi]
  rw [hplace, Entry.valueOf, h.kind]
  rfl

/-- Respelling an entry keeps what its key shows. -/
theorem Respelled.keyValues_eq {e e' : Fields} (h : Respelled e e') :
    Entry.keyValues e' = Entry.keyValues e := by
  cases h with
  | same => rfl
  | apart given taken => rw [taken.keyValues_eq given.location_ne, given.keyValues_eq]

theorem Respelled.key_eq {e e' : Fields} (h : Respelled e e') : Entry.key e' = Entry.key e := by
  rw [Entry.key, Entry.key, h.keyValues_eq]

theorem Respelled.isKeyed_eq {e e' : Fields} (h : Respelled e e') :
    Entry.isKeyed e' = Entry.isKeyed e := by
  rw [Entry.isKeyed, Entry.isKeyed, h.keyValues_eq]

/-- Respelling an entry keeps the fields that do not belong to the key. -/
theorem Respelled.get?_eq {e e' : Fields} (h : Respelled e e') {name : String}
    (hname : name ∉ keyFields) : e'.get? name = e.get? name := by
  cases h with
  | same => rfl
  | apart _ taken => exact taken.others name hname

/-- What an entry is read as under a key does not depend on the fields that give a key. -/
theorem Respelled.toRecord_eq {e e' : Fields} (h : Respelled e e') (k : Entry.Key) :
    Entry.toRecord k e' = Entry.toRecord k e := by
  have hfield : ∀ name, name ∉ keyFields → e'.get? name = e.get? name :=
    fun name hname => h.get?_eq hname
  have hneeded : ∀ name, name ∉ keyFields → Entry.needed e' name = Entry.needed e name :=
    fun name hname => by rw [Entry.needed, Entry.needed, hfield name hname]
  have hvalue : ∀ name, name ∉ keyFields → Entry.valueOf e' name = Entry.valueOf e name :=
    fun name hname => by rw [Entry.valueOf, Entry.valueOf, hfield name hname]
  have hlist : ∀ name, name ∉ keyFields → Entry.listOf e' name = Entry.listOf e name :=
    fun name hname => by rw [Entry.listOf, Entry.listOf, hvalue name hname]
  have hname := hneeded "name" (by decide)
  have hversion := hneeded "version" (by decide)
  have hhash : Entry.hash e' = Entry.hash e := by
    simp only [Entry.hash, hvalue "hash" (by decide), hvalue "sha256" (by decide),
      hvalue "md5" (by decide)]
  have hpypi : Entry.toPypi k.location e' = Entry.toPypi k.location e := by
    simp only [Entry.toPypi, hname, hversion, hhash, hvalue "editable" (by decide),
      hlist "requires_dist" (by decide)]
  have hsource : Entry.toSource k.location e' = Entry.toSource k.location e := by
    simp only [Entry.toSource, hname, hversion, hfield "build" (by decide),
      hvalue "subdir" (by decide), hlist "depends" (by decide)]
  have harchive : Entry.toArchive k.location e' = Entry.toArchive k.location e := by
    simp only [Entry.toArchive, hfield "name" (by decide), hfield "version" (by decide),
      hfield "build" (by decide), hfield "build_number" (by decide), hvalue "subdir" (by decide),
      hvalue "size" (by decide), hvalue "channel" (by decide), hvalue "sha256" (by decide),
      hvalue "md5" (by decide), hlist "depends" (by decide)]
  unfold Entry.toRecord
  rw [hpypi, hsource, harchive]

/-- Gives the kind and location of an entry apart, the location in the field `place`. -/
def giveApart (k : Kind) (place location : String) (e : Fields) : Fields :=
  ("kind", .text k.word) :: (place, .text location) :: e.filter fun f => f.1 != k.word

theorem get?_giveApart (k : Kind) (place location : String) (e : Fields) (name : String) :
    (giveApart k place location e).get? name =
      if name = "kind" then some (.text k.word)
      else if name = place then some (.text location)
      else if name = k.word then none
      else e.get? name := by
  have hrest : (e.filter fun f => f.1 != k.word).lookup name =
      if name = k.word then none else e.lookup name := by
    induction e with
    | nil => simp
    | cons f e ih =>
      obtain ⟨key, v⟩ := f
      by_cases hkey : key = k.word
      · rw [List.filter_cons_of_neg (by simp [hkey]), ih]
        by_cases hname : name = k.word
        · rw [if_pos hname, if_pos hname]
        · have hne : (name == key) = false := by simpa [hkey] using hname
          rw [if_neg hname, if_neg hname, List.lookup_cons, hne]
      · rw [List.filter_cons_of_pos (by simpa using hkey), List.lookup_cons, List.lookup_cons, ih]
        by_cases hname : name = key
        · subst hname
          simp [hkey]
        · have hne : (name == key) = false := by simpa using hname
          rw [hne]
  unfold giveApart Fields.get?
  rw [List.lookup_cons, List.lookup_cons, hrest]
  by_cases hkind : name = "kind"
  · simp [hkind]
  · have hne : (name == "kind") = false := by simpa using hkind
    rw [if_neg hkind, hne]
    by_cases hplace : name = place
    · simp [hplace]
    · have hne : (name == place) = false := by simpa using hplace
      rw [if_neg hplace, hne]

/-- Every entry that gives its kind and location together can be respelled. -/
theorem Joined.respelled {e : Fields} {k : Kind} {location : String} (h : Joined e k location)
    {place : String} (hplace : place = "url" ∨ place = "path") :
    Respelled e (giveApart k place location e) := by
  have hword : k.word ≠ "url" ∧ k.word ≠ "path" := by cases k <;> decide
  have hurl : e.get? "url" = none := h.alone "url" (by decide) hword.1.symm
  have hpath : e.get? "path" = none := h.alone "path" (by decide) hword.2.symm
  refine .apart h ⟨by rw [get?_giveApart, if_pos rfl], ?_, fun k' => ?_, fun name hname => ?_⟩
  · simp only [get?_giveApart]
    rcases hplace with rfl | rfl
    · exact .inl ⟨by simp, by simp [hpath]⟩
    · exact .inr ⟨by simp [hurl], by simp⟩
  · have hkind : k'.word ≠ "kind" := by cases k' <;> decide
    have hother : k'.word ≠ place := by rcases hplace with rfl | rfl <;> cases k' <;> decide
    have hmem : k'.word ∈ keyFields := by cases k' <;> decide
    rw [get?_giveApart, if_neg hkind, if_neg hother]
    by_cases hk : k'.word = k.word
    · rw [if_pos hk]
    · rw [if_neg hk, h.alone _ hmem hk]
  · have hkind : name ≠ "kind" := fun hn => hname (by rw [hn]; decide)
    have hother : name ≠ place := fun hn => hname (by rcases hplace with rfl | rfl <;> rw [hn] <;> decide)
    have hk : name ≠ k.word := fun hn => hname (by rw [hn]; cases k <;> decide)
    rw [get?_giveApart, if_neg hkind, if_neg hother, if_neg hk]

/-! ### Respelled documents -/

/-- Lists of entries by name agree up to the relation of their values. -/
abbrev ByName {α : Type} (R : α → α → Prop) : List (String × α) → List (String × α) → Prop :=
  List.Forall₂ fun a b => b.1 = a.1 ∧ R a.2 b.2

/-- A lock document in which some entries and references are respelled. -/
structure RespelledDocument (d d' : LockDocument) : Prop where
  version : d'.version = d.version
  packages : List.Forall₂ Respelled d.packages d'.packages
  environments : ByName (ByName (List.Forall₂ Respelled)) d.environments d'.environments

theorem ByName.names_eq {α : Type} {R : α → α → Prop} {xs ys : List (String × α)}
    (h : ByName R xs ys) : ys.map (·.1) = xs.map (·.1) := by
  induction h with
  | nil => rfl
  | cons hxy _ ih => rw [List.map_cons, List.map_cons, hxy.1, ih]

/-- The values found for a name are related, where missing ones are taken to be empty. -/
theorem ByName.getD_lookup {α : Type} {R : List α → List α → Prop} (hnil : R [] [])
    {xs ys : List (String × List α)} (h : ByName R xs ys) (name : String) :
    R ((xs.lookup name).getD []) ((ys.lookup name).getD []) := by
  induction h with
  | nil => exact hnil
  | @cons x y xs ys hxy _ ih =>
    obtain ⟨key, v⟩ := x
    obtain ⟨key', v'⟩ := y
    obtain ⟨rfl, hv⟩ := hxy
    by_cases hname : name = key'
    · subst hname
      simpa using hv
    · have hne : (name == key') = false := by simpa using hname
      simpa [List.lookup_cons, hne] using ih

/-- A package table with respelled entries is the same table. -/
theorem tableOf_eq_of_respelled {es es' : List Fields} (h : List.Forall₂ Respelled es es')
    (seen : List Entry.Key) : tableOf seen es' = tableOf seen es := by
  induction h generalizing seen with
  | nil => rfl
  | cons he _ ih => simp only [tableOf, he.key_eq, he.isKeyed_eq, he.toRecord_eq, ih]

/-! ### Lock files that answer alike -/

/-- Two lock files give the same answer to every question. -/
structure AnswersAlike (f f' : LockFile) : Prop where
  names : f'.environmentNames = f.environmentNames
  platforms : ∀ environment, f'.platforms environment = f.platforms environment
  packages : ∀ environment platform,
    f'.packages environment platform = f.packages environment platform

/-- Respelled references stand for the same records. -/
theorem mapM_recordOf_eq_of_respelled {path : Path} {table : List (Entry.Key × Record)}
    (d d' : LockDocument) (environment : String) {rs rs' : List Fields}
    (h : List.Forall₂ Respelled rs rs') :
    rs'.mapM (recordOf ⟨path, d', table⟩ environment) =
      rs.mapM (recordOf ⟨path, d, table⟩ environment) := by
  induction h with
  | nil => rfl
  | @cons r r' rs rs' hr _ ih =>
    have hrecord : recordOf ⟨path, d', table⟩ environment r' =
        recordOf ⟨path, d, table⟩ environment r := by
      simp only [recordOf, hr.key_eq, hr.isKeyed_eq]
    rw [List.mapM_cons, List.mapM_cons, hrecord, ih]

/-- Lock files with the same path and table answer alike if the references of one are respelled in
the other. -/
theorem answersAlike_of_respelled {d d' : LockDocument} (h : RespelledDocument d d') (path : Path)
    (table : List (Entry.Key × Record)) : AnswersAlike ⟨path, d, table⟩ ⟨path, d', table⟩ := by
  have hrefs : ∀ environment, ByName (List.Forall₂ Respelled)
      (references ⟨path, d, table⟩ environment) (references ⟨path, d', table⟩ environment) :=
    fun environment => h.environments.getD_lookup .nil environment
  refine ⟨h.environments.names_eq, fun environment => (hrefs environment).names_eq, ?_⟩
  intro environment platform
  have hlist := (hrefs environment).getD_lookup .nil platform
  exact mapM_recordOf_eq_of_respelled d d' environment hlist

/-- **Both ways to give a key mean the same.** If entries and references of a lock document are
respelled, either both documents are read, as lock files that answer alike, or neither is, for the
same reason. -/
theorem reads_respelled_alike (path : Path) {d d' : LockDocument} (h : RespelledDocument d d') :
    (∃ f f', (ofDocument path d).result = .ok f ∧ (ofDocument path d').result = .ok f' ∧
      AnswersAlike f f') ∨
    ∃ failure, (ofDocument path d).result = .error failure ∧
      (ofDocument path d').result = .error failure := by
  have htable : tableOf [] d'.packages = tableOf [] d.packages :=
    tableOf_eq_of_respelled h.packages []
  unfold ofDocument
  rw [htable]
  simp only [Traced.result_bind, Traced.result_notes]
  cases (tableOf [] d.packages).records with
  | ok table => exact .inl ⟨_, _, rfl, rfl, answersAlike_of_respelled h path table⟩
  | error fault => exact .inr ⟨_, rfl, rfl⟩

/-- An entry of a pypi package from a directory. -/
def directoryEntry : Fields :=
  [("pypi", .text "./a"), ("name", .text "A"), ("version", .int 1)]

/-- An entry of a conda archive. -/
def archiveEntry : Fields := [("conda", .text "https://c.org/noarch/n-1-0.conda")]

/-- A document whose only environment locks packages for one platform. -/
def documentOf (references packages : List Fields) : LockDocument :=
  ⟨6, [("default", [("linux-64", references)])], packages⟩

/-- The kind and location of a table's first entry are given apart, and so are those of the reference
to the other entry. -/
theorem reads_documentOf_alike :
    let entry := giveApart .pypi "path" "./a" directoryEntry
    let reference := giveApart .conda "url" "https://c.org/noarch/n-1-0.conda" archiveEntry
    let d := documentOf [archiveEntry, [("pypi", .text "./a")]] [directoryEntry, archiveEntry]
    let d' := documentOf [reference, [("pypi", .text "./a")]] [entry, archiveEntry]
    RespelledDocument d d' ∧ ∃ f f', (ofDocument ⟨.here, ["pixi.lock"]⟩ d).result = .ok f ∧
      (ofDocument ⟨.here, ["pixi.lock"]⟩ d').result = .ok f' ∧ AnswersAlike f f' := by
  intro entry reference d d'
  have hentry : Respelled directoryEntry entry :=
    Joined.respelled ⟨rfl, by decide, by decide⟩ (.inr rfl)
  have hreference : Respelled archiveEntry reference :=
    Joined.respelled ⟨rfl, by decide, by decide⟩ (.inl rfl)
  have h : RespelledDocument d d' :=
    ⟨rfl, .cons hentry (.cons .same .nil),
      .cons ⟨rfl, .cons ⟨rfl, .cons hreference (.cons .same .nil)⟩ .nil⟩ .nil⟩
  have hopens : (fun _ => ()) <$> (ofDocument ⟨.here, ["pixi.lock"]⟩ d).result = .ok () := by
    decide +kernel
  obtain ⟨f, hf, -⟩ := Outcome.map_eq_ok_iff.mp hopens
  rcases reads_respelled_alike ⟨.here, ["pixi.lock"]⟩ h with halike | ⟨failure, hfailure, -⟩
  · exact ⟨h, halike⟩
  · exact absurd (hf.symm.trans hfailure) (by simp)

end PinLedger.LockFile

/-
# Locations of archives, taken apart

The location of an archive is made of a channel, a subdirectory, and a file name with a name, a
version and a build. Each part is read off the end of the location by itself, and yet all of them
are found as they were put in: the build has no dash, so the last dash is the one before it, and so
on to the channel. An entry that says one of the parts itself changes this part of the record and
no other.

Key definitions: `Archive.Address`, `Archive.Address.WellFormed`, `Archive.Given`.
Key theorems: `Archive.split?_text`, `Archive.subdir?_text`, `Archive.channel?_text`,
`Archive.Address.toRecord_of_says`.
-/
import Mathlib
import PinLedger.LockFile.Entry

namespace PinLedger.Archive

open Document Text

/-! ### Urls -/

/-- A text begins with a scheme: a letter, then characters of a scheme, then `://`. -/
def HasScheme (s : String) : Prop :=
  ∃ (c : Char) (scheme rest : List Char), s.toList = c :: scheme ++ "://".toList ++ rest ∧
    isAsciiLetter c = true ∧ ∀ d ∈ scheme, isSchemeChar d = true

theorem HasScheme.isUrl {s : String} (h : HasScheme s) : isUrl s = true := by
  obtain ⟨c, scheme, rest, hs, hc, hscheme⟩ := h
  have hbehind : (scheme ++ ("://".toList ++ rest)).dropWhile isSchemeChar =
      "://".toList ++ rest := by
    rw [List.dropWhile_append_of_pos hscheme]
    exact List.dropWhile_cons_of_neg (by decide)
  have hsign : "://".toList.isPrefixOf ("://".toList ++ rest) = true :=
    List.isPrefixOf_iff_prefix.mpr (List.prefix_append ..)
  rw [List.append_assoc, List.cons_append] at hs
  unfold PinLedger.isUrl
  rw [hs]
  dsimp only
  rw [hbehind, hc, hsign]
  rfl

theorem HasScheme.append {s : String} (h : HasScheme s) (more : String) :
    HasScheme (s ++ more) := by
  obtain ⟨c, scheme, rest, hs, hc, hscheme⟩ := h
  refine ⟨c, scheme, rest ++ more.toList, ?_, hc, hscheme⟩
  rw [String.toList_append, hs, List.append_assoc]

/-! ### Addresses -/

/-- What the location of an archive is made of. -/
structure Address where
  channel : String
  subdir : String
  parts : Parts
  extension : String
deriving DecidableEq, Repr

namespace Address

/-- The file name without its ending. -/
def stem (a : Address) : List Char :=
  a.parts.name.toList ++ '-' :: (a.parts.version.toList ++ '-' :: a.parts.build.toList)

/-- The location. -/
def text (a : Address) : String :=
  a.channel ++ a.subdir ++ "/" ++ a.parts.name ++ "-" ++ a.parts.version ++ "-" ++ a.parts.build ++
    a.extension

/-- The parts do not hold what separates them; only a name may hold dashes. -/
structure WellFormed (a : Address) : Prop where
  scheme : HasScheme a.channel
  slash : ∃ body, a.channel = body ++ "/"
  subdir : '/' ∉ a.subdir.toList
  name : ∀ c ∈ a.parts.name.toList, c ≠ '/' ∧ c ≠ '\\'
  version : ∀ c ∈ a.parts.version.toList, c ≠ '-' ∧ c ≠ '/' ∧ c ≠ '\\'
  build : ∀ c ∈ a.parts.build.toList, c ≠ '-' ∧ c ≠ '/' ∧ c ≠ '\\'
  extension : a.extension ∈ extensions

variable {a : Address}

theorem toList_text (a : Address) : a.text.toList =
    (a.channel.toList ++ a.subdir.toList) ++ '/' :: (a.stem ++ a.extension.toList) := by
  simp [text, stem, String.toList_append]

/-- No character of a file name separates the parts of a location. -/
theorem WellFormed.not_separator (h : a.WellFormed) :
    ∀ c ∈ a.stem ++ a.extension.toList, c ≠ '/' ∧ c ≠ '\\' := by
  have hdash : ('-' : Char) ≠ '/' ∧ ('-' : Char) ≠ '\\' := by decide
  have hextension : ∀ e ∈ extensions, '/' ∉ e.toList ∧ '\\' ∉ e.toList := by decide
  intro c hc
  simp only [stem, List.mem_append, List.mem_cons] at hc
  rcases hc with (hname | rfl | hversion | rfl | hbuild) | hend
  · exact h.name c hname
  · exact hdash
  · exact (h.version c hversion).2
  · exact hdash
  · exact (h.build c hbuild).2
  · obtain ⟨hslash, hback⟩ := hextension a.extension h.extension
    exact ⟨ne_of_mem_of_not_mem hend hslash, ne_of_mem_of_not_mem hend hback⟩

end Address

/-! ### Taking a location apart -/

section TakenApart

variable {a : Address} (h : a.WellFormed)

include h

theorem fileName_text : fileName a.text = a.stem ++ a.extension.toList := by
  have hfile := h.not_separator
  -- A backslash counts as a slash, but there is none behind the last slash.
  have hsame : (a.stem ++ a.extension.toList).map (fun c => if c = '\\' then '/' else c) =
      a.stem ++ a.extension.toList := by
    rw [List.map_congr_left fun c hc => if_neg (hfile c hc).2, List.map_id']
  have hcut : cutLast? '/' (a.text.toList.map fun c => if c = '\\' then '/' else c) =
      some ((a.channel.toList ++ a.subdir.toList).map fun c => if c = '\\' then '/' else c,
        a.stem ++ a.extension.toList) := by
    rw [cutLast?_eq_some_iff, a.toList_text, List.map_append, List.map_cons, hsame]
    exact ⟨rfl, fun hmem => (hfile _ hmem).1 rfl⟩
  unfold fileName
  simp only [hcut]

theorem stem_text : stem (a.stem ++ a.extension.toList) = a.stem := by
  have hends : extensions.findSome? (fun e => dropEnd? e.toList (a.stem ++ a.extension.toList)) =
      some a.stem := by
    have hown : dropEnd? a.extension.toList (a.stem ++ a.extension.toList) = some a.stem :=
      dropEnd?_eq_some_iff.mpr rfl
    have hextension : a.extension = ".conda" ∨ a.extension = ".tar.bz2" := by
      simpa [extensions] using h.extension
    rcases hextension with hconda | htar
    · rw [hconda] at hown ⊢
      simp only [extensions, List.findSome?_cons, hown]
    · rw [htar] at hown ⊢
      -- A text that ends in `2` does not end in `a`.
      have hother : dropEnd? ".conda".toList (a.stem ++ ".tar.bz2".toList) = none := by
        rw [Option.eq_none_iff_forall_ne_some]
        intro s hs
        have hlast := congrArg List.getLast? (dropEnd?_eq_some_iff.mp hs)
        simp at hlast
      simp only [extensions, List.findSome?_cons, hother, hown]
  unfold stem
  rw [hends]

theorem split?_text : split? a.text = .ok a.parts := by
  have hbuild : cutLast? '-' a.stem =
      some (a.parts.name.toList ++ '-' :: a.parts.version.toList, a.parts.build.toList) := by
    refine cutLast?_eq_some_iff.mpr ⟨?_, fun hmem => (h.build _ hmem).1 rfl⟩
    simp [Address.stem]
  have hversion : cutLast? '-' (a.parts.name.toList ++ '-' :: a.parts.version.toList) =
      some (a.parts.name.toList, a.parts.version.toList) :=
    cutLast?_eq_some_iff.mpr ⟨rfl, fun hmem => (h.version _ hmem).1 rfl⟩
  unfold split?
  rw [fileName_text h, stem_text h]
  simp only [hbuild, hversion, String.ofList_toList]

theorem hasExtension_text : hasExtension a.text = true := by
  refine List.any_eq_true.mpr ⟨a.extension, h.extension, ?_⟩
  refine List.isSuffixOf_iff_suffix.mpr ?_
  rw [a.toList_text]
  exact ⟨(a.channel.toList ++ a.subdir.toList) ++ '/' :: a.stem, by simp⟩

theorem cutLast?_text : cutLast? '/' a.text.toList =
    some (a.channel.toList ++ a.subdir.toList, a.stem ++ a.extension.toList) :=
  cutLast?_eq_some_iff.mpr ⟨a.toList_text, fun hmem => (h.not_separator _ hmem).1 rfl⟩

/-- In front of the file name, the channel ends at the last slash. -/
theorem cutLast?_directory : ∃ body, a.channel.toList = body ++ ['/'] ∧
    cutLast? '/' (a.channel.toList ++ a.subdir.toList) = some (body, a.subdir.toList) := by
  obtain ⟨body, hbody⟩ := h.slash
  have hchannel : a.channel.toList = body.toList ++ ['/'] := by
    rw [hbody, String.toList_append]
    rfl
  refine ⟨body.toList, hchannel, cutLast?_eq_some_iff.mpr ⟨?_, h.subdir⟩⟩
  rw [hchannel, List.append_assoc, List.singleton_append]

theorem subdir?_text : subdir? a.text = some a.subdir := by
  obtain ⟨body, -, hcut⟩ := cutLast?_directory h
  unfold subdir?
  simp only [cutLast?_text h, hcut, Option.map_some, String.ofList_toList]

theorem channel?_text : channel? a.text = some a.channel := by
  obtain ⟨body, hbody, hcut⟩ := cutLast?_directory h
  have hscheme : HasScheme a.text := by
    have hmore := h.scheme.append (a.subdir ++ "/" ++ a.parts.name ++ "-" ++ a.parts.version ++
      "-" ++ a.parts.build ++ a.extension)
    have htext : a.text = a.channel ++ (a.subdir ++ "/" ++ a.parts.name ++ "-" ++
        a.parts.version ++ "-" ++ a.parts.build ++ a.extension) := by
      simp only [Address.text, String.append_assoc]
    rwa [htext]
  unfold channel?
  rw [if_pos hscheme.isUrl]
  simp only [cutLast?_text h, hcut]
  rw [← hbody, String.ofList_toList]

end TakenApart

/-! ### Entries -/

/-- What an entry may say of an archive besides its location. -/
structure Given where
  name : Option String := none
  version : Option String := none
  build : Option String := none
  subdir : Option String := none
  channel : Option String := none
deriving DecidableEq, Repr

namespace Given

/-- What is said in a field. -/
def field? (g : Given) : String → Option String
  | "name" => g.name
  | "version" => g.version
  | "build" => g.build
  | "subdir" => g.subdir
  | "channel" => g.channel
  | _ => none

/-- No text that is said is empty. -/
def Telling (g : Given) : Prop := ∀ field, g.field? field ≠ some ""

/-- A record with what is said in place of what it holds. -/
def overlay (g : Given) (r : ArchiveRecord) : ArchiveRecord :=
  { r with
    name := g.name.getD r.name
    version := g.version.getD r.version
    build := g.build.getD r.build
    subdir := g.subdir.or r.subdir
    channel := g.channel.or r.channel }

end Given

/-- An entry has a location, says what is given, and has no other field. -/
def Says (entry : Fields) (location : String) (g : Given) : Prop :=
  ∀ field, entry.get? field =
    if field = "conda" then some (.text location) else (g.field? field).map .text

/-- A field that gives a text, if any, before the text that is used otherwise. -/
theorem orElse_given {given : Option String} (h : given ≠ some "") (other : String) :
    Entry.orElse ((given.map Value.text).getD .null) (.text other) =
      .text (given.getD other) := by
  cases given with
  | none => rfl
  | some s =>
    have hs : (Value.text s).truthy = true := by simpa [Value.truthy] using h
    exact if_pos hs

namespace Address

/-- The record of an archive of which nothing but the location is known. -/
def record (a : Address) : ArchiveRecord where
  name := a.parts.name
  version := a.parts.version
  build := a.parts.build
  buildNumber := 0
  subdir := some a.subdir
  url := a.text
  size := none
  channel := some a.channel
  sha256 := none
  md5 := none
  depends := []

variable {a : Address}

theorem toArchive_of_says (h : a.WellFormed) {g : Given} (hg : g.Telling) {entry : Fields}
    (hentry : Says entry a.text g) :
    Entry.toArchive a.text entry = .ok (.archive (g.overlay a.record)) := by
  have hfield : ∀ field, field ≠ "conda" → entry.get? field = (g.field? field).map .text :=
    fun field hne => (hentry field).trans (if_neg hne)
  have hvalue : ∀ field, field ≠ "conda" →
      Entry.valueOf entry field = ((g.field? field).map .text).getD .null :=
    fun field hne => congrArg (Option.getD · Value.null) (hfield field hne)
  have htext : ∀ (given : Option String) (other : String),
      (given.map Value.text).getD (.text other) = .text (given.getD other) := by
    intro given other
    cases given <;> rfl
  have hsubdir : Entry.orElse (Entry.valueOf entry "subdir") (.text a.subdir) =
      .text (g.subdir.getD a.subdir) := by
    rw [hvalue "subdir" (by decide)]
    exact orElse_given (hg "subdir") a.subdir
  have hchannel : Entry.orElse (Entry.valueOf entry "channel") (.text a.channel) =
      .text (g.channel.getD a.channel) := by
    rw [hvalue "channel" (by decide)]
    exact orElse_given (hg "channel") a.channel
  have hoverlay : g.overlay a.record =
      ⟨g.name.getD a.parts.name, g.version.getD a.parts.version, g.build.getD a.parts.build, 0,
        some (g.subdir.getD a.subdir), a.text, none, some (g.channel.getD a.channel), none, none,
        []⟩ := by
    unfold Given.overlay record
    cases g.subdir <;> cases g.channel <;> rfl
  unfold Entry.toArchive
  rw [split?_text h, subdir?_text h, channel?_text h, hoverlay]
  simp only [Except.mapError, Entry.ofText?, hsubdir, hchannel, Entry.listOf,
    hfield "name" (by decide), hfield "version" (by decide), hfield "build" (by decide),
    hfield "build_number" (by decide), hvalue "size" (by decide), hvalue "sha256" (by decide),
    hvalue "md5" (by decide), hvalue "depends" (by decide), Given.field?, htext, Entry.shown_text]
  rfl

/-- An entry with the location of an archive is read as the record that the location tells, with
what the entry says itself in its place. -/
theorem toRecord_of_says (h : a.WellFormed) {g : Given} (hg : g.Telling) {entry : Fields}
    (hentry : Says entry a.text g) :
    Entry.toRecord (Entry.key entry) entry = .ok (.archive (g.overlay a.record)) := by
  have hkey : Entry.key entry = ⟨"conda", a.text⟩ := by
    have hconda : entry.get? "conda" = some (.text a.text) := (hentry "conda").trans (if_pos rfl)
    unfold Entry.key Entry.keyValues
    simp only [hconda]
    rfl
  unfold Entry.toRecord
  rw [hkey, if_neg (by simp), if_neg (by simp), if_pos (hasExtension_text h)]
  exact toArchive_of_says h hg hentry

end Address

/-- The entry with nothing but the location. -/
def Address.entry (a : Address) : Fields := [("conda", .text a.text)]

theorem Given.field?_nothing (field : String) : ({} : Given).field? field = none := by
  unfold field?
  split <;> rfl

theorem says_entry (a : Address) : Says a.entry a.text {} := by
  intro field
  rw [Given.field?_nothing]
  by_cases hconda : field = "conda"
  · subst hconda
    rfl
  · have hne : (field == "conda") = false := by simpa using hconda
    simp [Address.entry, Fields.get?, List.lookup_cons, hne, hconda]

/-- **The location of an archive decomposes into the parts that it was made of.** An entry with
nothing but the location is read as a record with exactly these parts and the whole location. If the
entry says name, version, build, subdirectory or channel itself, as a text that is not empty, the
record has what it says there, and is the same in all other fields. -/
theorem archive_location_decomposes {a : Address} (h : a.WellFormed) :
    Entry.toRecord (Entry.key a.entry) a.entry = .ok (.archive a.record) ∧
    ∀ (g : Given) (entry : Fields), g.Telling → Says entry a.text g →
      Entry.toRecord (Entry.key entry) entry = .ok (.archive (g.overlay a.record)) := by
  refine ⟨?_, fun g entry hg hentry => Address.toRecord_of_says h hg hentry⟩
  have htelling : ({} : Given).Telling := fun field => by simp [Given.field?_nothing]
  exact Address.toRecord_of_says h htelling (says_entry a)

/-- A file name with dashes in the name, no version, and a build that ends like an archive. -/
def oddAddress : Address where
  channel := "https://c.org/t/x/"
  subdir := ""
  parts := ⟨"lib-x-", "", "0.tar.bz2"⟩
  extension := ".conda"

theorem wellFormed_oddAddress : oddAddress.WellFormed where
  scheme := ⟨'h', "ttps".toList, "c.org/t/x/".toList, by decide, by decide,
    List.all_iff_forall_prop.mp (by decide)⟩
  slash := ⟨"https://c.org/t/x", by decide⟩
  subdir := by decide
  name := List.all_iff_forall_prop.mp (by decide)
  version := List.all_iff_forall_prop.mp (by decide)
  build := List.all_iff_forall_prop.mp (by decide)
  extension := by decide

/-- An entry for the odd address that says its build and its channel. -/
def oddEntry : Fields :=
  [("channel", .text "c"), ("conda", .text oddAddress.text), ("build", .text "1")]

theorem oddAddress_decomposes :
    oddAddress.text = "https://c.org/t/x//lib-x---0.tar.bz2.conda" ∧ oddAddress.WellFormed ∧
    Entry.toRecord (Entry.key oddAddress.entry) oddAddress.entry =
      .ok (.archive oddAddress.record) ∧
    Entry.toRecord (Entry.key oddEntry) oddEntry =
      .ok (.archive { oddAddress.record with build := "1", channel := some "c" }) := by
  let g : Given := { build := some "1", channel := some "c" }
  have htelling : g.Telling := by
    intro field
    unfold Given.field?
    split <;> simp [g]
  have hsays : Says oddEntry oddAddress.text g := by
    intro field
    by_cases hbuild : field = "build"
    · subst hbuild; rfl
    by_cases hchannel : field = "channel"
    · subst hchannel; rfl
    by_cases hconda : field = "conda"
    · subst hconda; rfl
    have hnone : g.field? field = none := by
      unfold Given.field?
      split <;> first | rfl | contradiction
    have hlookup : oddEntry.lookup field = none := by
      simp [oddEntry, List.lookup_eq_none_iff, hbuild, hchannel, hconda]
    rw [if_neg hconda, hnone]
    exact hlookup
  obtain ⟨hbare, hgiven⟩ := archive_location_decomposes wellFormed_oddAddress
  exact ⟨by decide, wellFormed_oddAddress, hbare, hgiven g oddEntry htelling hsays⟩

end PinLedger.Archive

/-
# Lists of packages as JSON

The text of a list of packages is a JSON document in either layout, and what is read from it are
the packages again. So both layouts say the same, and no two lists share a text. No control
character stands in a compact text, and characters beyond ASCII are written as themselves. A size
with more digits than are written out is refused.

Key definitions: `HasLongSize`, `Package.textChars`.
Key theorems: `check_toValue_toJson`, `packagesJson_eq_ok`, `packagesJson_injective`,
`packagesJson_round_trip`.
-/
import Mathlib.Data.List.Forall2
import PinLedger.Package
import PinLedger.Proofs.Json.Characters
import PinLedger.Proofs.Json.Reading

namespace PinLedger

open Json (Plain isWide)

/-! ### One package -/

/-- A package has a size with more decimal digits than are written out. -/
def HasLongSize (p : Package) : Prop :=
  ∃ n, p.size = some n ∧ Number.writtenDigits < (Nat.toDigits 10 n.natAbs).length

theorem hasLongSize_iff {p : Package} : p.hasLongSize = true ↔ HasLongSize p := by
  unfold Package.hasLongSize HasLongSize
  rw [Option.any_eq_true]
  simp only [Number.isTooLong_iff]

namespace Package

theorem plain_jsonText (s : Option String) : Plain (jsonText s) := by
  cases s with
  | none => exact .null
  | some s => exact .text s

theorem plain_toJson (p : Package) : Plain p.toJson := by
  refine .object ?_ fun f hf => ?_
  · cases p.isEditable <;> simp
  · rcases List.mem_append.mp hf with hf | hf
    · simp only [List.mem_cons, List.not_mem_nil, or_false] at hf
      rcases hf with rfl | rfl | rfl | rfl | rfl | rfl | rfl
      · exact .text _
      · exact .text _
      · exact plain_jsonText _
      · cases p.size with
        | none => exact .null
        | some n => exact .int n
      · exact .text _
      · exact plain_jsonText _
      · exact .bool _
    · split at hf
      · rw [List.mem_singleton.mp hf]
        exact .bool true
      · exact absurd hf List.not_mem_nil

/-- A package is what its JSON form is read as. -/
theorem check_toValue_toJson (p : Package) : check p.toJson.toValue = .ok p := by
  obtain ⟨name, version, build, size, kind, source, isExplicit, isEditable⟩ := p
  cases build <;> cases size <;> cases kind <;> cases source <;> cases isEditable <;> rfl

/-- Whether a package is editable is said exactly if it is. -/
theorem isSome_get?_isEditable (p : Package) :
    (p.toJson.get? "is_editable").isSome = p.isEditable := by
  obtain ⟨name, version, build, size, kind, source, isExplicit, isEditable⟩ := p
  cases isEditable <;> rfl

/-- The characters of the texts of a package, in the order of its fields. -/
def textChars (p : Package) : List Char :=
  p.name.toList ++ p.version.toList ++ (p.build.getD "").toList ++ (p.source.getD "").toList

theorem filter_wide_jsonText (l : Json.Layout) (depth : Nat) (s : Option String) :
    (Json.chars l depth (jsonText s)).filter isWide = (s.getD "").toList.filter isWide := by
  cases s with
  | none => rfl
  | some s => exact Json.filter_wide_quote s

theorem filter_wide_toJson (l : Json.Layout) (depth : Nat) (p : Package) :
    (Json.chars l depth p.toJson).filter isWide = p.textChars.filter isWide := by
  have hkind : p.kind.word.toList.filter isWide = [] := by cases p.kind <;> decide
  have hnull : (Json.chars l (depth + 1) .null).filter isWide = [] := rfl
  have hint : ∀ i : Int, (Json.chars l (depth + 1) (.int i)).filter isWide = [] :=
    Json.filter_wide_toString
  have hbool : ∀ b : Bool, (Json.chars l (depth + 1) (.bool b)).filter isWide = [] := by
    intro b
    cases b <;> rfl
  have htext : ∀ s : String, (Json.chars l (depth + 1) (.text s)).filter isWide =
      s.toList.filter isWide := Json.filter_wide_quote
  have hnames : ∀ name ∈ ["name", "version", "build", "size_bytes", "kind", "source",
      "is_explicit", "is_editable"], name.toList.filter isWide = [] := by decide
  simp only [List.forall_mem_cons] at hnames
  obtain ⟨h1, h2, h3, h4, h5, h6, h7, h8, -⟩ := hnames
  have heditable : ((if p.isEditable then [("is_editable", Json.bool true)] else []).flatMap
      fun f => f.1.toList.filter isWide ++ (Json.chars l (depth + 1) f.2).filter isWide) = [] := by
    cases p.isEditable with
    | true =>
      rw [if_pos rfl, List.flatMap_cons, h8, hbool]
      rfl
    | false => rfl
  rw [toJson, Json.filter_wide_object, List.flatMap_append, heditable]
  cases p.size <;>
    simp only [List.flatMap_cons, List.flatMap_nil, h1, h2, h3, h4, h5, h6, h7, htext, hkind,
      hnull, hint, hbool, filter_wide_jsonText, List.nil_append, List.append_nil, textChars,
      List.filter_append, List.append_assoc]

end Package

/-! ### Lists of packages -/

/-- The layout that is asked for. -/
def layoutOf (pretty : Bool) : Json.Layout := if pretty then .indented else .compact

theorem plain_packages (ps : List Package) : Plain (.list (ps.map Package.toJson)) := by
  refine .list fun j hj => ?_
  obtain ⟨p, -, rfl⟩ := List.mem_map.mp hj
  exact p.plain_toJson

theorem packagesJson_eq_error_iff {pretty : Bool} {ps : List Package} {failure : Failure} :
    packagesJson pretty ps = .error failure ↔
      failure = .breakdown .outOfRange ∧ ∃ p ∈ ps, HasLongSize p := by
  have hany : ps.any Package.hasLongSize = true ↔ ∃ p ∈ ps, HasLongSize p := by
    rw [List.any_eq_true]
    exact exists_congr fun p => and_congr_right fun _ => hasLongSize_iff
  unfold packagesJson
  rw [← hany]
  cases ps.any Package.hasLongSize <;> simp [eq_comm]

theorem packagesJson_eq_ok_iff {pretty : Bool} {ps : List Package} {text : String} :
    packagesJson pretty ps = .ok text ↔ (∀ p ∈ ps, ¬ HasLongSize p) ∧
      text = Json.write (layoutOf pretty) (.list (ps.map Package.toJson)) := by
  have hany : ps.any Package.hasLongSize = false ↔ ∀ p ∈ ps, ¬ HasLongSize p := by
    rw [List.any_eq_false]
    exact forall_congr' fun p => imp_congr_right fun _ => not_congr hasLongSize_iff
  unfold packagesJson layoutOf
  rw [← hany]
  cases ps.any Package.hasLongSize <;> simp [eq_comm]

/-- Different lists have different texts, whatever their layouts. -/
theorem packagesJson_injective {pretty pretty' : Bool} {ps ps' : List Package} {text : String}
    (h : packagesJson pretty ps = .ok text) (h' : packagesJson pretty' ps' = .ok text) :
    ps = ps' := by
  obtain ⟨-, rfl⟩ := packagesJson_eq_ok_iff.mp h
  obtain ⟨-, heq⟩ := packagesJson_eq_ok_iff.mp h'
  have hread := Json.parse?_write (layoutOf pretty) (plain_packages ps)
  rw [heq, Json.parse?_write (layoutOf pretty') (plain_packages ps')] at hread
  have hmap : ps'.map Package.toJson = ps.map Package.toJson := by simpa using hread
  have hinj : Function.Injective Package.toJson := fun p p' hp => by
    have hcheck := p.check_toValue_toJson
    rw [hp, p'.check_toValue_toJson] at hcheck
    exact (Except.ok.inj hcheck).symm
  exact (List.map_inj_right fun _ _ h => hinj h).mp hmap.symm

theorem filter_wide_packages (l : Json.Layout) (ps : List Package) :
    (Json.chars l 0 (.list (ps.map Package.toJson))).filter isWide =
      (ps.flatMap Package.textChars).filter isWide := by
  rw [Json.filter_wide_list, List.flatMap_map, List.filter_flatMap]
  simp only [Package.filter_wide_toJson]

/-- **Packages are read back from their JSON text.** A list is refused exactly if one of its sizes
has too many digits. Every other list has a text in both layouts: a JSON document that is read as
the same objects, one for each package, from which the packages are read again. No other list has
this text, in either layout. The key `is_editable` stands in the objects of editable packages only,
characters beyond ASCII stand in the text as they stand in the packages, and the compact text has
one line. -/
theorem packagesJson_round_trip (ps : List Package) :
    (∀ pretty failure, packagesJson pretty ps = .error failure ↔
      failure = .breakdown .outOfRange ∧ ∃ p ∈ ps, HasLongSize p) ∧
    ((∀ p ∈ ps, ¬ HasLongSize p) →
      ∃ objects, List.Forall₂ (fun j p => Package.check j.toValue = .ok p ∧
          ((j.get? "is_editable").isSome ↔ p.isEditable = true)) objects ps ∧
        ∀ pretty, ∃ text, packagesJson pretty ps = .ok text ∧
          Json.IsDocument text.toList ∧
          Json.parse? text = some (.list objects) ∧
          (∀ pretty' ps', packagesJson pretty' ps' = .ok text → ps' = ps) ∧
          text.toList.filter isWide = (ps.flatMap Package.textChars).filter isWide ∧
          (pretty = false → '\n' ∉ text.toList ∧ '\r' ∉ text.toList)) := by
  constructor
  · exact fun pretty failure => packagesJson_eq_error_iff
  · intro hshort
    refine ⟨ps.map Package.toJson, ?_, fun pretty => ?_⟩
    · rw [List.forall₂_map_left_iff, List.forall₂_same]
      intro p _
      exact ⟨p.check_toValue_toJson, by rw [p.isSome_get?_isEditable]⟩
    · have hplain := plain_packages ps
      have htext : packagesJson pretty ps = .ok (Json.write (layoutOf pretty)
          (.list (ps.map Package.toJson))) := packagesJson_eq_ok_iff.mpr ⟨hshort, rfl⟩
      refine ⟨_, htext, Json.isDocument_write _ hplain, Json.parse?_write _ hplain,
        fun pretty' ps' h' => packagesJson_injective h' htext, ?_, ?_⟩
      · rw [Json.write, String.toList_ofList, filter_wide_packages]
      · rintro rfl
        have hcontrol : ∀ c ∈ (Json.write (layoutOf false)
            (.list (ps.map Package.toJson))).toList, 0x20 ≤ c.toNat := by
          intro c hc
          rw [Json.write, String.toList_ofList] at hc
          exact Json.not_control_of_mem_chars hplain hc
        exact ⟨fun hmem => absurd (hcontrol _ hmem) (by decide),
          fun hmem => absurd (hcontrol _ hmem) (by decide)⟩

/-- Two packages with quotes, a backslash, line breaks and characters beyond ASCII in their texts. -/
def oddPackages : List Package := [
  ⟨"a\"b", "1\\2", some "naïve\n", some (-5), .conda, none, true, false⟩,
  ⟨"日本", "1\t\x01", none, none, .pypi, some "./β\r", false, true⟩]

theorem not_hasLongSize_of_mem_oddPackages : ∀ p ∈ oddPackages, ¬ HasLongSize p := by
  intro p hp hlong
  have hall : ∀ p ∈ oddPackages, p.size = none ∨ p.size = some (-5) := by decide
  obtain ⟨n, hn, hlength⟩ := hlong
  rcases hall p hp with h | h
  · exact absurd (h.symm.trans hn) (by simp)
  · obtain rfl := Option.some.inj (h.symm.trans hn)
    exact absurd hlength (by decide)

theorem round_trip_of_oddPackages :
    (∀ p ∈ oddPackages, ¬ HasLongSize p) ∧
    ∃ objects compact pretty, packagesJson false oddPackages = .ok compact ∧
      packagesJson true oddPackages = .ok pretty ∧
      Json.parse? compact = some (.list objects) ∧ Json.parse? pretty = some (.list objects) ∧
      List.Forall₂ (fun j p => Package.check j.toValue = .ok p) objects oddPackages := by
  obtain ⟨-, hread⟩ := packagesJson_round_trip oddPackages
  obtain ⟨objects, hobjects, htexts⟩ := hread not_hasLongSize_of_mem_oddPackages
  obtain ⟨compact, hcompact, -, hparsed, -⟩ := htexts false
  obtain ⟨pretty, hpretty, -, hparsed', -⟩ := htexts true
  exact ⟨not_hasLongSize_of_mem_oddPackages, objects, compact, pretty, hcompact, hpretty, hparsed,
    hparsed', hobjects.imp fun _ _ h => h.1⟩

/-- A package whose size is the least number with too many digits. -/
def hugePackage : Package :=
  ⟨"a", "1", some "0", some (Number.powerOfTen Number.writtenDigits), .conda, none, true, false⟩

/-- A list with a size of more than 4300 digits has no text. -/
theorem packagesJson_of_hugePackage :
    packagesJson true [hugePackage] = .error (.breakdown .outOfRange) ∧
      packagesJson false [hugePackage] = .error (.breakdown .outOfRange) := by
  have hlong : HasLongSize hugePackage := by
    refine ⟨_, rfl, ?_⟩
    rw [Int.natAbs_natCast, ← Nat.not_le, Number.length_toDigits_le_iff (by decide)]
    exact Nat.lt_irrefl _
  have hrefused : ∀ pretty, packagesJson pretty [hugePackage] = .error (.breakdown .outOfRange) :=
    fun pretty => packagesJson_eq_error_iff.mpr
      ⟨rfl, hugePackage, List.mem_singleton.mpr rfl, hlong⟩
  exact ⟨hrefused true, hrefused false⟩

end PinLedger

/-
# Reading the directory of a name

The wheels of a name are those among the entries of its directory; where there is no directory there
are none. Reading fails only where a name is too long, be it one that a link leads to.

Key definitions: `dirOf`.
Key theorems: `result_wheelsAmong`, `result_scan`, `scan_eq_error`, `exists_scan_eq_ok`.
-/
import PinLedger.Proofs.Files.Fits
import PinLedger.Proofs.Outcome
import PinLedger.WheelIndex

namespace PinLedger.WheelIndex

open Outcome

/-- What the answer to a question about the tree fails with. -/
def fileFailure (fault : OsFault) : Failure := .breakdown (.file fault.reason)

theorem reason_of_ask_eq_error {p : Path} {found : Except OsReason Node} {test : Node → Bool}
    {fault : OsFault} (h : FileTree.ask p found test = .error fault) :
    fault.reason = .nameTooLong := by
  unfold FileTree.ask at h
  split at h
  · simp at h
  · rw [← Except.error.inj h]
  · simp at h

theorem reason_of_itemOf_eq_error {t : FileTree} {name : String} {path : Path} {fault : OsFault}
    (h : itemOf t name path = .error fault) : fault.reason = .nameTooLong := by
  unfold itemOf at h
  split at h
  · simp [pure, Except.pure] at h
  · rcases bind_eq_error_iff.mp h with h | ⟨b, -, h⟩
    · exact reason_of_ask_eq_error h
    · cases b <;> simp [pure, Except.pure] at h

/-- The wheels among some entries are those of the single entries. -/
theorem result_wheelsAmong (t : FileTree) (name : String) (paths : List Path) :
    (wheelsAmong t name paths).result =
      ((fun items => items.flatMap fun item => item.wheel?.toList) <$>
        paths.mapM (itemOf t name)).mapError fileFailure := by
  induction paths with
  | nil => rfl
  | cons path rest ih =>
    simp only [wheelsAmong, Traced.result_bind, Traced.result_ofAnswer, Traced.result_notes, ih,
      List.mapM_cons]
    cases itemOf t name path with
    | error fault => rfl
    | ok item => cases rest.mapM (itemOf t name) <;> rfl

/-- The directory of a name. -/
def dirOf (cache : Path) (name : String) : Path := cache.join (Path.ofText name)

theorem result_scan (t : FileTree) (cache : Path) (name : String) :
    (scan t cache name).result = match t.find (dirOf cache name) with
      | .ok (.dir entries) =>
        (wheelsAmong t name ((sortedEntries entries).map (dirOf cache name).child)).result
      | .error .nameTooLong => .error (.breakdown (.file .nameTooLong))
      | _ => .ok [] := by
  unfold scan dirOf
  generalize cache.join (Path.ofText name) = dir
  simp only [Traced.result_bind, Traced.result_ofAnswer, FileTree.isDir?]
  cases hfind : t.find dir with
  | error reason => cases reason <;> rfl
  | ok n =>
    cases n with
    | file content => rfl
    | link target => rfl
    | dir entries =>
      have hentries : t.entries dir = .ok entries := by
        simp [FileTree.entries, hfind]
      change (Traced.ofAnswer (t.entries dir) >>= _).result = _
      rw [hentries]
      change (wheelsAmong t name ((sortedEntries entries).map dir.child) >>= _).result =
        (wheelsAmong t name ((sortedEntries entries).map dir.child)).result
      rw [Traced.result_bind]
      cases (wheelsAmong t name ((sortedEntries entries).map dir.child)).result <;> rfl

theorem scan_eq_error {t : FileTree} {cache : Path} {name : String} {e : Failure}
    (h : (scan t cache name).result = .error e) : e = .breakdown (.file .nameTooLong) := by
  rw [result_scan] at h
  split at h
  · rw [result_wheelsAmong] at h
    obtain ⟨fault, hfault, rfl⟩ := mapError_eq_error_iff.mp h
    obtain ⟨-, path, -, -, -, hitem⟩ := mapM_eq_error_iff.mp (map_eq_error_iff.mp hfault)
    rw [fileFailure, reason_of_itemOf_eq_error hitem]
  · exact (Except.error.inj h).symm
  · simp at h

/-- Where names fit, the directory of a name is always read to its end. -/
theorem exists_scan_eq_ok {t : FileTree} (ht : t.Fits) {cache : Path} {name : String}
    (hdir : (dirOf cache name).Fits) : ∃ wheels, (scan t cache name).result = .ok wheels := by
  have hfind := FileTree.find_fits ht hdir
  rw [result_scan]
  split
  · next entries hentries =>
    rw [hentries] at hfind
    have hitems : ∃ items,
        ((sortedEntries entries).map (dirOf cache name).child).mapM (itemOf t name) = .ok items := by
      refine exists_mapM_eq_ok_iff.mpr fun path hpath => ?_
      obtain ⟨entryName, hname, rfl⟩ := List.mem_map.mp hpath
      obtain ⟨entry, hentry, rfl⟩ := List.mem_map.mp (List.mem_mergeSort.mp hname)
      have hfits : ((dirOf cache name).child entry.1).Fits :=
        hdir.child (Node.EntriesFit.of_mem hfind hentry).1
      obtain ⟨b, hb⟩ := FileTree.exists_isDir?_eq_ok ht hfits
      unfold itemOf
      split
      · exact ⟨_, rfl⟩
      · rw [hb]
        cases b <;> exact ⟨_, rfl⟩
    obtain ⟨items, hitems⟩ := hitems
    rw [result_wheelsAmong, hitems]
    exact ⟨_, rfl⟩
  · next htoolong =>
    rw [htoolong] at hfind
    exact absurd rfl hfind
  · exact ⟨[], rfl⟩

end PinLedger.WheelIndex

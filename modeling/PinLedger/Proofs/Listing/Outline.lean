/-
# A listing sees the outline of the tree

Once a selection is made no file is read any more. Packages are sized, and wheels are looked up, by
the names in the tree and the sizes of its files.

Key definitions: `Surroundings.outline`.
Key theorems: `WheelIndex.scan_outline`, `Package.ofRecords_outline`, `Selection.list_outline`.
-/
import PinLedger.Listing
import PinLedger.Proofs.Files.Outline

namespace PinLedger

/-! ### Wheels -/

namespace WheelIndex

variable (t : FileTree)

theorem itemOf_outline (name : String) (path : Path) :
    itemOf t.outline name path = itemOf t name path := by
  unfold itemOf
  rw [FileTree.isDir?_outline]

theorem wheelsAmong_outline (name : String) (paths : List Path) :
    wheelsAmong t.outline name paths = wheelsAmong t name paths := by
  induction paths with
  | nil => rfl
  | cons path rest ih =>
    unfold wheelsAmong
    rw [itemOf_outline, ih]

/-- A directory of the cache is read alike. -/
theorem scan_outline (cache : Path) (name : String) :
    scan t.outline cache name = scan t cache name := by
  have hsorted : ∀ es, sortedEntries (Node.outlineEntries es) = sortedEntries es := fun es => by
    rw [sortedEntries, sortedEntries, Node.map_fst_outlineEntries]
  unfold scan
  simp only [FileTree.isDir?_outline, FileTree.entries_outline, wheelsAmong_outline]
  cases t.entries (cache.join (Path.ofText name)) with
  | error fault => rfl
  | ok es => simp only [Except.map, Traced.ofAnswer, pure_bind, hsorted]

theorem find_outline (ix : WheelIndex) (name version : String) :
    ix.find t.outline name version = ix.find t name version := by
  unfold WheelIndex.find WheelIndex.get
  simp only [scan_outline]

end WheelIndex

/-! ### Packages -/

namespace Package

variable (t : FileTree)

theorem originOfLocation_outline (root : Option Path) (location : Location) :
    originOfLocation t.outline root location = originOfLocation t root location := by
  unfold originOfLocation
  simp only [FileTree.sizeAt_outline]

theorem originOfWheel_outline (ix : WheelIndex) (name version : String) :
    originOfWheel t.outline ix name version = originOfWheel t ix name version := by
  unfold originOfWheel
  simp only [WheelIndex.find_outline, FileTree.sizeAt_outline]

theorem originOfPypi_outline (index : Option WheelIndex) (root : Option Path) (name : String)
    (r : PypiRecord) :
    originOfPypi t.outline index root name r = originOfPypi t index root name r := by
  unfold originOfPypi
  simp only [originOfWheel_outline, originOfLocation_outline]

theorem ofRecord_outline (explicit : List String) (root : Option Path) (index : Option WheelIndex)
    (record : Record) :
    ofRecord t.outline explicit root index record = ofRecord t explicit root index record := by
  cases record with
  | archive r => simp only [ofRecord]
  | source r => simp only [ofRecord]
  | pypi r => simp only [ofRecord, originOfPypi_outline]

/-- Packages are sized alike. -/
theorem ofRecords_outline (explicit : List String) (root : Option Path)
    (index : Option WheelIndex) (records : List Record) :
    ofRecords t.outline explicit root index records = ofRecords t explicit root index records := by
  induction records generalizing index with
  | nil => rfl
  | cons record rest ih =>
    unfold ofRecords
    simp only [ofRecord_outline, ih]

end Package

/-- Surroundings with the outline of their tree. -/
def Surroundings.outline (s : Surroundings) : Surroundings := { s with tree := s.tree.outline }

theorem indexFor_outline (s : Surroundings) (noInstall : Bool) (records : List Record) :
    indexFor s.outline noInstall records = indexFor s noInstall records := by
  have hcache : s.outline.wheelCache = s.wheelCache := rfl
  have hdir : ∀ p, s.outline.tree.isDir? p = s.tree.isDir? p := s.tree.isDir?_outline
  unfold indexFor
  simp only [hcache, hdir]

/-- A selection is listed alike. -/
theorem Selection.list_outline (s : Surroundings) (q : Query) (sel : Selection) :
    sel.list s.outline q = sel.list s q := by
  have hrecords : ∀ index, Package.ofRecords s.outline.tree sel.explicit (some sel.lock.root) index
      sel.records = Package.ofRecords s.tree sel.explicit (some sel.lock.root) index sel.records :=
    fun index => Package.ofRecords_outline s.tree _ _ index _
  unfold Selection.list Selection.packages
  simp only [indexFor_outline, hrecords]

end PinLedger

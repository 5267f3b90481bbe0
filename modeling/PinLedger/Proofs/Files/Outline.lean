/-
# The outline of a file tree

The outline of a tree has its directories, its links and the sizes of its files, but not what the
files hold. Questions about paths and sizes are answered by the outline alone: only reading a file
needs the tree itself.

Key definitions: `Node.outline`, `FileTree.outline`.
Key theorems: `FileTree.walk_outline`, `FileTree.resolve_outline`, `FileTree.sizeAt_outline`.
-/
import PinLedger.Files.Size
import PinLedger.Proofs.Files.Walk

namespace PinLedger

namespace Node

mutual

/-- A node with as many zeros in each file as its size says. -/
def outline : Node → Node
  | .file content => .file (.zeros content.size)
  | .link target => .link target
  | .dir entries => .dir (outlineEntries entries)

/-- Entries with their outlines. -/
def outlineEntries : List (String × Node) → List (String × Node)
  | [] => []
  | (name, n) :: es => (name, n.outline) :: outlineEntries es

end

theorem map_fst_outlineEntries (es : List (String × Node)) :
    (outlineEntries es).map (·.1) = es.map (·.1) := by
  induction es with
  | nil => rfl
  | cons e es ih => exact congrArg (e.1 :: ·) ih

theorem lookup_outlineEntries (es : List (String × Node)) (name : String) :
    (outlineEntries es).lookup name = (es.lookup name).map outline := by
  induction es with
  | nil => rfl
  | cons e es ih =>
    obtain ⟨k, n⟩ := e
    rw [outlineEntries, List.lookup_cons, List.lookup_cons]
    cases name == k with
    | true => rfl
    | false => exact ih

@[simp] theorem isDir_outline (n : Node) : n.outline.isDir = n.isDir := by
  cases n <;> rfl

@[simp] theorem isLink_outline (n : Node) : n.outline.isLink = n.isLink := by
  cases n <;> rfl

theorem child?_outline (n : Node) (name : String) :
    n.outline.child? name = (n.child? name).map outline := by
  cases n with
  | file content => rfl
  | link target => rfl
  | dir entries => exact lookup_outlineEntries entries name

theorem at?_outline (n : Node) (names : List String) :
    n.outline.at? names = (n.at? names).map outline := by
  induction names generalizing n with
  | nil => rfl
  | cons name names ih =>
    rw [at?, at?, child?_outline]
    cases n.child? name with
    | none => rfl
    | some child => exact ih child

mutual

theorem size_outline : ∀ n : Node, n.outline.size = n.size
  | .file _ => rfl
  | .link _ => rfl
  | .dir entries => entriesSize_outline entries

theorem entriesSize_outline : ∀ es : List (String × Node),
    entriesSize (outlineEntries es) = entriesSize es
  | [] => rfl
  | (_, n) :: es => by
    rw [outlineEntries, entriesSize, entriesSize, size_outline n, entriesSize_outline es]

end

mutual

theorem linksBelow_outline (p : Path) : ∀ n : Node, n.outline.linksBelow p = n.linksBelow p
  | .file _ => rfl
  | .link _ => rfl
  | .dir entries => linksAmong_outline p entries

theorem linksAmong_outline (p : Path) : ∀ es : List (String × Node),
    linksAmong p (outlineEntries es) = linksAmong p es
  | [] => rfl
  | (name, n) :: es => by
    rw [outlineEntries, linksAmong, linksAmong, linksBelow_outline (p.child name) n,
      linksAmong_outline p es]

end

end Node

namespace FileTree

mutual

theorem countLinks_outline : ∀ n : Node, countLinks n.outline = countLinks n
  | .file _ => rfl
  | .link _ => rfl
  | .dir entries => countEntryLinks_outline entries

theorem countEntryLinks_outline : ∀ es : List (String × Node),
    countEntryLinks (Node.outlineEntries es) = countEntryLinks es
  | [] => rfl
  | (_, n) :: es => by
    rw [Node.outlineEntries, countEntryLinks, countEntryLinks, countLinks_outline n,
      countEntryLinks_outline es]

end

/-- A tree with as many zeros in each file as its size says. -/
def outline (t : FileTree) : FileTree := { t with top := t.top.outline }

variable (t : FileTree)

/-! ### Paths -/

/-- Where a walk ends, with the outline of the node there. -/
def outlined (r : Except OsReason (List String × Node)) : Except OsReason (List String × Node) :=
  r.map fun p => (p.1, p.2.outline)

/-- A walk in the outline ends where it ends in the tree. -/
theorem walk_outline (followLast : Bool) (links : Nat) (here names : List String) :
    t.outline.walk followLast links here names =
      outlined (t.walk followLast links here names) := by
  have hat? : ∀ names, t.outline.top.at? names = (t.top.at? names).map Node.outline :=
    Node.at?_outline t.top
  have hdir : ∀ {names entries}, t.top.at? names = some (.dir entries) →
      t.outline.top.at? names = some (.dir (Node.outlineEntries entries)) := fun hat => by
    rw [hat?, hat]
    rfl
  have hentry : ∀ {entries : List (String × Node)} {name found}, entries.lookup name = found →
      (Node.outlineEntries entries).lookup name = found.map Node.outline := fun hn => by
    rw [Node.lookup_outlineEntries, hn]
  fun_induction t.walk followLast links here names with
  | case1 links here n hat | case2 links here hat =>
    rw [walk, hat?, hat]
    rfl
  | case3 links here name names entries hat hdot ih => exact (walk_of_dot (hdir hat) hdot).trans ih
  | case4 links here names entries hat hdot ih => exact (walk_of_up (hdir hat)).trans ih
  | case5 links here name names entries hat hdot hup hlong =>
    exact walk_of_long (hdir hat) ⟨hdot, hup⟩ hlong
  | case6 links here name names entries hat hdot hup hfit hlookup =>
    exact walk_of_missing (hdir hat) ⟨hdot, hup⟩ (Nat.not_lt.mp hfit) (hentry hlookup)
  | case7 links here name names entries hat hdot hup hfit target hlookup hlast =>
    exact walk_of_last_link (hdir hat) ⟨hdot, hup⟩ (Nat.not_lt.mp hfit) (hentry hlookup) hlast
  | case8 here name names entries hat hdot hup hfit target hlookup hlast =>
    exact walk_of_loop (hdir hat) ⟨hdot, hup⟩ (Nat.not_lt.mp hfit) (hentry hlookup) hlast
  | case9 here name names entries hat hdot hup hfit target hlookup hlast more start ih =>
    exact (walk_of_link (hdir hat) ⟨hdot, hup⟩ (Nat.not_lt.mp hfit) (hentry hlookup) hlast).trans ih
  | case10 links here name names entries hat hdot hup hfit n hlink hlookup ih =>
    have hnolink : n.outline.isLink = false := by
      cases n with
      | link target => exact absurd rfl (hlink target)
      | file content => rfl
      | dir entries => rfl
    exact (walk_of_lookup (hdir hat) ⟨hdot, hup⟩ (Nat.not_lt.mp hfit) (hentry hlookup)
      hnolink).trans ih
  | case11 links here name names n hdir hat =>
    rw [walk, hat?, hat]
    cases n with
    | file content => rfl
    | link target => rfl
    | dir entries => exact absurd rfl (hdir entries)
  | case12 links here name names hat =>
    rw [walk, hat?, hat]
    rfl

theorem find_outline (p : Path) : t.outline.find p = (t.find p).map Node.outline := by
  unfold find locate
  change (t.outline.walk true maxLinks (t.start p) p.names).map (·.2) = _
  rw [walk_outline]
  cases t.walk true maxLinks (t.start p) p.names <;> rfl

theorem findLink_outline (p : Path) : t.outline.findLink p = (t.findLink p).map Node.outline := by
  unfold findLink
  change (t.outline.walk false maxLinks (t.start p) p.names).map (·.2) = _
  rw [walk_outline]
  cases t.walk false maxLinks (t.start p) p.names <;> rfl

theorem ask_map_outline {test : Node → Bool} (htest : ∀ n : Node, test n.outline = test n)
    (p : Path) (found : Except OsReason Node) :
    ask p (found.map Node.outline) test = ask p found test := by
  cases found with
  | ok n => exact congrArg Except.ok (htest n)
  | error reason => cases reason <;> rfl

@[simp] theorem exists?_outline (p : Path) : t.outline.exists? p = t.exists? p := by
  rw [exists?, find_outline]
  exact ask_map_outline (fun _ => rfl) p (t.find p)

@[simp] theorem isDir?_outline (p : Path) : t.outline.isDir? p = t.isDir? p := by
  rw [isDir?, find_outline]
  exact ask_map_outline Node.isDir_outline p (t.find p)

@[simp] theorem isLink?_outline (p : Path) : t.outline.isLink? p = t.isLink? p := by
  rw [isLink?, findLink_outline]
  exact ask_map_outline Node.isLink_outline p (t.findLink p)

/-- A directory has the same names in it. -/
theorem entries_outline (p : Path) :
    t.outline.entries p = (t.entries p).map Node.outlineEntries := by
  unfold entries
  rw [find_outline]
  cases t.find p with
  | error reason => rfl
  | ok n => cases n <;> rfl

/-- A name that stands for itself is resolved by what is there, links not followed. -/
theorem resolveNames_of_plain {strict : Bool} {depth : Nat} {pending : List Path} {p : Path}
    {name : String} {rest : List String} (hdot : ¬ (name = "" ∨ name = ".")) (hup : name ≠ "..") :
    t.resolveNames strict depth pending p (name :: rest) =
      match t.findLink (p.child name) with
      | .error reason =>
        if strict then .error ⟨reason, (p.child name).text⟩
        else t.resolveNames strict depth pending (p.child name) rest
      | .ok (.link target) =>
        match depth with
        | 0 => resolveNames.looped t strict (p.child name) rest
        | less + 1 =>
          if pending.contains (p.child name) then resolveNames.looped t strict (p.child name) rest
          else
            match t.resolveNames strict less (p.child name :: pending)
              (if target.startsWith "/" then ⟨.top, []⟩ else p) (Text.split '/' target) with
            | .error fault => .error fault
            | .ok (q, false) => .ok (q.join (Path.ofText ("/".intercalate rest)), false)
            | .ok (q, true) => t.resolveNames strict (less + 1) pending q rest
      | .ok _ => t.resolveNames strict depth pending (p.child name) rest := by
  rw [resolveNames]
  exact (if_neg hdot).trans (if_neg hup)

theorem looped_outline (strict : Bool) (next : Path) (rest : List String) :
    resolveNames.looped t.outline strict next rest = resolveNames.looped t strict next rest := by
  unfold resolveNames.looped loopReason
  rw [find_outline]
  cases t.find next <;> rfl

theorem resolveNames_outline (strict : Bool) (depth : Nat) (pending : List Path) (p : Path)
    (names : List String) :
    t.outline.resolveNames strict depth pending p names =
      t.resolveNames strict depth pending p names := by
  fun_induction t.resolveNames strict depth pending p names with
  | case1 => rw [resolveNames]
  | case2 depth pending p name rest hdot ih => rw [resolveNames, if_pos hdot, ih]
  | case3 depth pending p rest hdot ih => rw [resolveNames, if_neg hdot, if_pos rfl, ih]
  | case4 depth pending p name rest hdot hup next reason hfound hstrict =>
    rw [resolveNames_of_plain _ hdot hup, findLink_outline, hfound]
    exact if_pos hstrict
  | case5 depth pending p name rest hdot hup next reason hfound hlenient ih =>
    rw [resolveNames_of_plain _ hdot hup, findLink_outline, hfound]
    exact (if_neg hlenient).trans ih
  | case6 pending p name rest hdot hup next target hfound =>
    rw [resolveNames_of_plain _ hdot hup, findLink_outline, hfound]
    exact looped_outline t strict next rest
  | case7 pending p name rest hdot hup next target hfound less hpending =>
    rw [resolveNames_of_plain _ hdot hup, findLink_outline, hfound]
    exact (if_pos hpending).trans (looped_outline t strict next rest)
  | case8 pending p name rest hdot hup next target hfound less hpending base fault hbelow ih =>
    rw [resolveNames_of_plain _ hdot hup, findLink_outline, hfound]
    refine (if_neg hpending).trans ?_
    have hsame : t.outline.resolveNames strict less (p.child name :: pending)
        (if target.startsWith "/" then ⟨.top, []⟩ else p) (Text.split '/' target) = .error fault :=
      ih.trans hbelow
    rw [hsame]
  | case9 pending p name rest hdot hup next target hfound less hpending base q hbelow ih =>
    rw [resolveNames_of_plain _ hdot hup, findLink_outline, hfound]
    refine (if_neg hpending).trans ?_
    have hsame : t.outline.resolveNames strict less (p.child name :: pending)
        (if target.startsWith "/" then ⟨.top, []⟩ else p) (Text.split '/' target) = .ok (q, false) :=
      ih.trans hbelow
    rw [hsame]
  | case10 pending p name rest hdot hup next target hfound less hpending base q hbelow ihlink ih =>
    rw [resolveNames_of_plain _ hdot hup, findLink_outline, hfound]
    refine (if_neg hpending).trans ?_
    have hsame : t.outline.resolveNames strict less (p.child name :: pending)
        (if target.startsWith "/" then ⟨.top, []⟩ else p) (Text.split '/' target) = .ok (q, true) :=
      ihlink.trans hbelow
    rw [hsame]
    exact ih
  | case11 depth pending p name rest hdot hup next n hlink hfound ih =>
    rw [resolveNames_of_plain _ hdot hup, findLink_outline, hfound]
    cases n with
    | file content => exact ih
    | link target => exact absurd rfl (hlink target)
    | dir entries => exact ih

@[simp] theorem resolve_outline (strict : Bool) (p : Path) :
    t.outline.resolve strict p = t.resolve strict p := by
  have hlinks : countLinks t.outline.top = countLinks t.top := countLinks_outline t.top
  unfold resolve
  simp only [resolveNames_outline, hlinks]
  rfl

/-! ### Sizes -/

theorem result_sizeAt {t : FileTree} {p q : Path} {n : Node} (hsettle : t.settle p = .ok q)
    (hfind : t.find q = .ok n) : (t.sizeAt p).result = .ok n.size := by
  unfold sizeAt
  rw [hsettle]
  simp only [hfind]
  cases n.isDir <;> rfl

/-- Sizes are measured in the outline. -/
@[simp] theorem sizeAt_outline (p : Path) : t.outline.sizeAt p = t.sizeAt p := by
  have hsettle : t.outline.settle p = t.settle p := by
    simp only [settle, isLink?_outline, resolve_outline]
  unfold sizeAt
  rw [hsettle]
  cases t.settle p with
  | error fault => rfl
  | ok p =>
    simp only [find_outline]
    cases t.find p with
    | error reason => rfl
    | ok n => simp only [Except.map, Node.isDir_outline, Node.linksBelow_outline, Node.size_outline]

end FileTree

end PinLedger

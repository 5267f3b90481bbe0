/-
# Tokens and nodes keep to the text

Tokens are made from the text and nodes from tokens, and nothing else of what is known meanwhile
can end in a fault but in that the text is not well-formed. So a text that forms no node is not
well-formed, has a fault of its own, or shows a number that is too great.

Key definitions: `KeepsTokens`, `KeepsNodes`, `Reader.KeepNodes`.
Key theorems: `Layout.keeps_makeToken`, `Reader.keepNodes`, `Reader.keeps_stream`,
`Node.ofSource_eq_error`.
-/
import PinLedger.Proofs.Yaml.Scanning

namespace PinLedger.Yaml

/-- Steps that make tokens keep to the text. -/
abbrev KeepsTokens {α : Type} (m : Tokenizer α) : Prop := Keeps Layout.cursor m

namespace Layout

/-! ### The record of what is known -/

@[simp] theorem insert_cursor (l : Layout) (position : Nat) (t : Token) :
    (l.insert position t).cursor = l.cursor := rfl

@[simp] theorem withoutCandidate_cursor (l : Layout) : l.withoutCandidate.cursor = l.cursor := rfl

@[simp] theorem openBlock_cursor (l : Layout) (column position : Nat) (start : Token) :
    (l.openBlock column position start).cursor = l.cursor := by
  unfold openBlock
  split <;> rfl

theorem unindent_cursor (column : Int) (outer : List Int) (l : Layout) :
    (unindent column outer l).cursor = l.cursor := by
  induction outer generalizing l with
  | nil =>
    unfold unindent
    split <;> rfl
  | cons i more ih =>
    unfold unindent
    split
    · rfl
    · exact ih _

@[simp] theorem unwind_cursor (l : Layout) (column : Int) : (l.unwind column).cursor = l.cursor :=
  unindent_cursor column l.outer l

/-! ### Steps -/

theorem keeps_scan {α : Type} {m : Scan α} (h : KeepsText m) : KeepsTokens (scan m) :=
  h.within (fun _ => rfl) fun _ _ => rfl

theorem keeps_push (t : Token) : KeepsTokens (modify (·.push t)) :=
  keeps_modify_of_eq fun _ => rfl

theorem keeps_dropCandidate : KeepsTokens dropCandidate := by
  refine keeps_get.bind fun l => ?_
  split
  · split
    · exact keeps_malformed
    · exact keeps_modify_of_eq fun _ => rfl
  · exact keeps_pure _

theorem keeps_dropLate : KeepsTokens dropLate :=
  keeps_get.bind fun _ => (keeps_require _).bind fun _ => keeps_modify_of_eq fun _ => rfl

theorem keeps_allowKey (allowed : Bool) : KeepsTokens (allowKey allowed) :=
  keeps_modify_of_eq fun _ => rfl

theorem keeps_saveCandidate : KeepsTokens saveCandidate := by
  refine keeps_get.bind fun l => ?_
  split
  · exact keeps_dropCandidate.bind fun _ => keeps_modify_of_eq fun _ => rfl
  · exact keeps_pure _

theorem keeps_skipToToken (fuel : Nat) : KeepsTokens (skipToToken fuel) := by
  induction fuel with
  | zero => exact keeps_malformed
  | succ fuel ih =>
    refine (keeps_scan keeps_skipComment).bind fun _ => (keeps_scan keeps_atBreak).bind fun _ => ?_
    split
    · exact (keeps_scan keeps_readBreak).bind fun _ =>
        Keeps.bind (keeps_modify_of_eq fun _ => rfl) fun _ => ih
    · exact keeps_pure _

theorem keeps_skipMark : KeepsTokens skipMark := by
  refine keeps_get.bind fun l => ?_
  split
  · refine (keeps_scan (keeps_isAt _)).bind fun _ => ?_
    split
    · exact keeps_scan (keeps_skip 1)
    · exact keeps_pure _
  · exact keeps_pure _

theorem keeps_closeAll : KeepsTokens closeAll :=
  (keeps_modify_of_eq fun l => l.unwind_cursor (-1)).bind fun _ => keeps_dropCandidate.bind fun _ =>
    keeps_allowKey false

theorem keeps_streamEnd : KeepsTokens streamEnd :=
  keeps_closeAll.bind fun _ => keeps_modify_of_eq fun _ => rfl

theorem keeps_directive : KeepsTokens directive :=
  keeps_closeAll.bind fun _ => (keeps_scan Token.keeps_readDirective).bind keeps_push

theorem keeps_sign (t : Token) (length : Nat) : KeepsTokens (sign t length) :=
  (keeps_scan (keeps_skip length)).bind fun _ => keeps_push t

theorem keeps_documentMark (t : Token) : KeepsTokens (documentMark t) :=
  keeps_closeAll.bind fun _ => keeps_sign t 3

theorem keeps_openFlow (t : Token) : KeepsTokens (openFlow t) :=
  keeps_saveCandidate.bind fun _ =>
    Keeps.bind (keeps_modify_of_eq fun _ => rfl) fun _ => keeps_sign t 1

theorem keeps_closeFlow (t : Token) : KeepsTokens (closeFlow t) :=
  keeps_dropCandidate.bind fun _ =>
    Keeps.bind (keeps_modify_of_eq fun _ => rfl) fun _ => keeps_sign t 1

theorem keeps_flowEntry : KeepsTokens flowEntry :=
  (keeps_allowKey true).bind fun _ => keeps_dropCandidate.bind fun _ => keeps_sign _ 1

theorem keeps_openBlockHere (start : Token) : KeepsTokens (openBlockHere start) :=
  keeps_get.bind fun _ => (keeps_require _).bind fun _ =>
    keeps_modify_of_eq fun l => l.openBlock_cursor ..

theorem keeps_blockEntry : KeepsTokens blockEntry :=
  (keeps_openBlockHere _).bind fun _ => (keeps_allowKey true).bind fun _ =>
    keeps_dropCandidate.bind fun _ => keeps_sign _ 1

theorem keeps_bareSign (t : Token) : KeepsTokens (bareSign t) :=
  (keeps_openBlockHere _).bind fun _ => keeps_get.bind fun _ => (keeps_allowKey _).bind fun _ =>
    keeps_dropCandidate.bind fun _ => keeps_sign t 1

theorem keeps_colon : KeepsTokens colon := by
  refine keeps_get.bind fun l => ?_
  split
  · exact (keeps_modify_of_eq fun l => by simp).bind fun _ => (keeps_allowKey false).bind fun _ =>
      keeps_sign _ 1
  · exact keeps_bareSign _

theorem keeps_word {read : Scan Token} (h : KeepsText read) : KeepsTokens (word read) :=
  keeps_saveCandidate.bind fun _ => (keeps_allowKey false).bind fun _ =>
    (keeps_scan h).bind keeps_push

theorem keeps_block (folded : Bool) : KeepsTokens (block folded) :=
  (keeps_allowKey true).bind fun _ => keeps_dropCandidate.bind fun _ => keeps_get.bind fun _ =>
    (keeps_scan (Token.keeps_readBlock _ _)).bind fun _ => keeps_push _

theorem keeps_plain : KeepsTokens plain :=
  keeps_saveCandidate.bind fun _ => keeps_get.bind fun _ =>
    (keeps_scan (Token.keeps_readPlain _ _ _ _ _)).bind fun _ => (keeps_allowKey _).bind fun _ =>
      keeps_push _

theorem keeps_readQuotedToken (double : Bool) : KeepsText (readQuotedToken double) :=
  (keeps_skip 1).bind fun _ => keeps_get.bind fun _ =>
    (Token.keeps_readQuoted double _).bind fun _ => keeps_pure _

theorem keeps_readNameToken (make : String → Token) : KeepsText (readNameToken make) :=
  Token.keeps_readAnchor.bind fun _ => keeps_pure _

theorem keeps_startsPlain (inFlow : Bool) (d : Char) : KeepsText (startsPlain inFlow d) := by
  unfold startsPlain
  split
  · exact (keeps_peek 1).bind fun _ => keeps_pure _
  · exact keeps_pure _

theorem keeps_standsAlone (inFlow : Bool) (sign d : Char) :
    KeepsText (standsAlone inFlow sign d) := by
  unfold standsAlone
  split
  · exact keeps_pure _
  · split
    · exact keeps_pure _
    · exact (keeps_peek 1).bind fun _ => keeps_pure _

/-- A choice by a look at the text. -/
theorem keeps_choice {look : Scan Bool} {m m' : Tokenizer Unit} (hlook : KeepsText look)
    (h : KeepsTokens m) (h' : KeepsTokens m') :
    KeepsTokens (do if ← scan look then m else m') := by
  refine (keeps_scan hlook).bind fun found => ?_
  split
  · exact h
  · exact h'

theorem keeps_ite {m m' : Tokenizer Unit} (b : Bool) (h : KeepsTokens m) (h' : KeepsTokens m') :
    KeepsTokens (if b then m else m') := by
  split
  · exact h
  · exact h'

/-- The token that begins with a character, one sign after the other. -/
theorem keeps_makeTokenAt (inFlow : Bool) (d : Char) : KeepsTokens (makeTokenAt inFlow d) := by
  unfold makeTokenAt
  refine keeps_ite _ (keeps_openFlow _) <| keeps_ite _ (keeps_openFlow _) <|
    keeps_ite _ (keeps_closeFlow _) <| keeps_ite _ (keeps_closeFlow _) <|
    keeps_ite _ keeps_flowEntry <| keeps_choice (keeps_standsAlone _ _ _) keeps_blockEntry <|
    keeps_choice (keeps_standsAlone _ _ _) (keeps_bareSign _) <|
    keeps_choice (keeps_standsAlone _ _ _) keeps_colon <| ?_
  refine keeps_ite _ (keeps_word (keeps_readNameToken _)) <|
    keeps_ite _ (keeps_word (keeps_readNameToken _)) <|
    keeps_ite _ (keeps_word Token.keeps_readTag) <|
    keeps_ite _ (keeps_block _) <| keeps_ite _ (keeps_block _) <|
    keeps_ite _ (keeps_word (keeps_readQuotedToken _)) <|
    keeps_ite _ (keeps_word (keeps_readQuotedToken _)) <| ?_
  exact keeps_choice (keeps_startsPlain _ _) keeps_plain keeps_malformed

theorem keeps_makeToken : KeepsTokens makeToken := by
  refine keeps_skipMark.bind fun _ => keeps_get.bind fun _ => (keeps_skipToToken _).bind fun _ =>
    keeps_dropLate.bind fun _ => (keeps_modify_of_eq fun l => l.unwind_cursor _).bind fun _ =>
      keeps_get.bind fun l => (keeps_scan (keeps_peek 0)).bind fun d => ?_
  cases d with
  | none => exact keeps_streamEnd
  | some d =>
    exact keeps_ite _ keeps_directive <| keeps_ite _
      (keeps_choice keeps_atDocumentMark (keeps_documentMark _) (keeps_makeTokenAt _ _))
      (keeps_makeTokenAt _ _)

theorem keeps_makeNext (fuel : Nat) : KeepsTokens (makeNext fuel) := by
  induction fuel with
  | zero => exact keeps_malformed
  | succ fuel ih =>
    refine keeps_get.bind fun l => ?_
    split
    · refine keeps_get.bind fun l => ?_
      split
      · exact keeps_makeToken.bind fun _ => ih
      · refine keeps_dropLate.bind fun _ => keeps_get.bind fun l => ?_
        split
        · exact keeps_makeToken.bind fun _ => ih
        · exact keeps_pure _
    · exact keeps_pure _

theorem keeps_nextToken : KeepsTokens nextToken :=
  keeps_get.bind fun _ => (keeps_makeNext _).bind fun _ => keeps_get.bind fun _ => keeps_pure _

end Layout

/-! ### Nodes -/

/-- The place in the text while nodes are read. -/
def Progress.cursor (p : Progress) : Cursor := p.layout.cursor

/-- Steps that read nodes keep to the text. -/
abbrev KeepsNodes {α : Type} (m : Reader α) : Prop := Keeps Progress.cursor m

namespace Reader

theorem keeps_onTokens {α : Type} {m : Tokenizer α} (h : KeepsTokens m) : KeepsNodes (onTokens m) :=
  h.within (fun _ => rfl) fun _ _ => rfl

theorem keeps_peek : KeepsNodes peek := keeps_onTokens Layout.keeps_nextToken

theorem keeps_pass : KeepsNodes pass := keeps_onTokens (keeps_modify_of_eq fun _ => rfl)

theorem keeps_expect (t : Token) : KeepsNodes (expect t) :=
  keeps_peek.bind fun _ => (keeps_require _).bind fun _ => keeps_pass

theorem keeps_named (name : String) : KeepsNodes (named name) := by
  refine keeps_get.bind fun p => ?_
  split
  · exact keeps_pure _
  · exact keeps_malformed

theorem keeps_giveName (name : String) (n : Node) : KeepsNodes (giveName name n) :=
  keeps_modify_of_eq fun _ => rfl

theorem keeps_opened (name : Option String) : KeepsNodes (opened name) := by
  cases name with
  | none => exact keeps_pure _
  | some name =>
    exact keeps_peek.bind fun _ => keeps_get.bind fun _ => (keeps_require _).bind fun _ =>
      keeps_giveName _ _

theorem keeps_closed (name : Option String) (n : Node) : KeepsNodes (closed name n) := by
  cases name with
  | none => exact keeps_pure _
  | some name => exact (keeps_giveName _ _).bind fun _ => keeps_pure _

theorem keeps_uriOf (tag : Option (Option String × String)) : KeepsNodes (uriOf tag) := by
  unfold uriOf
  split
  · exact keeps_pure _
  · exact keeps_pure _
  · refine keeps_get.bind fun p => ?_
    split
    · exact keeps_pure _
    · exact keeps_malformed

theorem keeps_name? : KeepsNodes name? := by
  refine keeps_peek.bind fun t => ?_
  split
  · exact keeps_pass.bind fun _ => keeps_pure _
  · exact keeps_pure _

theorem keeps_tag? : KeepsNodes tag? := by
  refine keeps_peek.bind fun t => ?_
  split
  · exact keeps_pass.bind fun _ => keeps_pure _
  · exact keeps_pure _

theorem keeps_properties : KeepsNodes properties := by
  refine keeps_name?.bind fun name => ?_
  split
  · exact keeps_tag?.bind fun _ => (keeps_uriOf _).bind fun _ => keeps_pure _
  · refine keeps_tag?.bind fun tag => ?_
    split
    · exact keeps_name?.bind fun _ => (keeps_uriOf _).bind fun _ => keeps_pure _
    · exact keeps_pure _

theorem keeps_noContent (p : Properties) : KeepsNodes (noContent p) := by
  unfold noContent
  split
  · exact keeps_pure _
  · exact keeps_malformed

theorem keeps_separator (first : Bool) (close : Token) : KeepsNodes (separator first close) := by
  refine keeps_peek.bind fun t => ?_
  split
  · exact keeps_expect _
  · exact keeps_pure _

/-- All functions that read nodes, with some fuel. -/
structure KeepNodes (fuel : Nat) : Prop where
  node (inBlock loose : Bool) : KeepsNodes (node inBlock loose fuel)
  content (inBlock loose : Bool) (p : Properties) : KeepsNodes (content inBlock loose p fuel)
  nodeBefore (ends : List Token) (inBlock loose : Bool) :
    KeepsNodes (nodeBefore ends inBlock loose fuel)
  valueBefore (ends : List Token) (inBlock loose : Bool) :
    KeepsNodes (valueBefore ends inBlock loose fuel)
  blockItems : KeepsNodes (blockItems fuel)
  looseItems : KeepsNodes (looseItems fuel)
  blockEntries : KeepsNodes (blockEntries fuel)
  flowItems (first : Bool) : KeepsNodes (flowItems first fuel)
  flowEntries (first : Bool) : KeepsNodes (flowEntries first fuel)

theorem keepNodes_zero : KeepNodes 0 where
  node _ _ := keeps_malformed
  content _ _ _ := keeps_malformed
  nodeBefore _ _ _ := keeps_malformed
  valueBefore _ _ _ := keeps_malformed
  blockItems := keeps_malformed
  looseItems := keeps_malformed
  blockEntries := keeps_malformed
  flowItems _ := keeps_malformed
  flowEntries _ := keeps_malformed

section Succ

variable {fuel : Nat} (h : KeepNodes fuel)
include h

theorem keeps_node_succ (inBlock loose : Bool) : KeepsNodes (node inBlock loose (fuel + 1)) := by
  rw [node]
  refine keeps_peek.bind fun t => ?_
  split
  · exact keeps_pass.bind fun _ => keeps_named _
  · exact keeps_properties.bind fun p => (keeps_opened _).bind fun _ =>
      (h.content inBlock loose p).bind fun _ => keeps_closed _ _

theorem keeps_content_succ (inBlock loose : Bool) (p : Properties) :
    KeepsNodes (content inBlock loose p (fuel + 1)) := by
  rw [content]
  refine keeps_peek.bind fun t => ?_
  split
  · exact h.looseItems.bind fun _ => keeps_pure _
  · exact keeps_pass.bind fun _ => keeps_pure _
  · exact keeps_pass.bind fun _ => (h.flowItems true).bind fun _ => keeps_pure _
  · exact keeps_pass.bind fun _ => (h.flowEntries true).bind fun _ => keeps_pure _
  · exact keeps_pass.bind fun _ => h.blockItems.bind fun _ => keeps_pure _
  · exact keeps_pass.bind fun _ => h.blockEntries.bind fun _ => keeps_pure _
  · exact keeps_noContent p

theorem keeps_nodeBefore_succ (ends : List Token) (inBlock loose : Bool) :
    KeepsNodes (nodeBefore ends inBlock loose (fuel + 1)) := by
  rw [nodeBefore]
  refine keeps_peek.bind fun t => ?_
  split
  · exact keeps_pure _
  · exact h.node inBlock loose

theorem keeps_valueBefore_succ (ends : List Token) (inBlock loose : Bool) :
    KeepsNodes (valueBefore ends inBlock loose (fuel + 1)) := by
  rw [valueBefore]
  refine keeps_peek.bind fun t => ?_
  split
  · exact keeps_pass.bind fun _ => h.nodeBefore ends inBlock loose
  · exact keeps_pure _

theorem keeps_blockItems_succ : KeepsNodes (blockItems (fuel + 1)) := by
  rw [blockItems]
  refine keeps_peek.bind fun t => ?_
  split
  · exact keeps_pass.bind fun _ => (h.nodeBefore _ true false).bind fun _ =>
      h.blockItems.bind fun _ => keeps_pure _
  · exact keeps_pass.bind fun _ => keeps_pure _
  · exact keeps_malformed

theorem keeps_looseItems_succ : KeepsNodes (looseItems (fuel + 1)) := by
  rw [looseItems]
  refine keeps_peek.bind fun t => ?_
  split
  · exact keeps_pass.bind fun _ => (h.nodeBefore _ true false).bind fun _ =>
      h.looseItems.bind fun _ => keeps_pure _
  · exact keeps_pure _

theorem keeps_blockEntries_succ : KeepsNodes (blockEntries (fuel + 1)) := by
  rw [blockEntries]
  refine keeps_peek.bind fun t => ?_
  split
  · exact keeps_pass.bind fun _ => (h.nodeBefore _ true true).bind fun _ =>
      (h.valueBefore _ true true).bind fun _ => h.blockEntries.bind fun _ => keeps_pure _
  · exact keeps_pass.bind fun _ => keeps_pure _
  · exact keeps_malformed

theorem keeps_flowItems_succ (first : Bool) : KeepsNodes (flowItems first (fuel + 1)) := by
  rw [flowItems]
  refine (keeps_separator first _).bind fun _ => keeps_peek.bind fun t => ?_
  split
  · exact keeps_pass.bind fun _ => keeps_pure _
  · exact keeps_pass.bind fun _ => (h.nodeBefore _ false false).bind fun _ =>
      (h.valueBefore _ false false).bind fun _ => (h.flowItems false).bind fun _ => keeps_pure _
  · exact (h.node false false).bind fun _ => (h.flowItems false).bind fun _ => keeps_pure _

theorem keeps_flowEntries_succ (first : Bool) : KeepsNodes (flowEntries first (fuel + 1)) := by
  rw [flowEntries]
  refine (keeps_separator first _).bind fun _ => keeps_peek.bind fun t => ?_
  split
  · exact keeps_pass.bind fun _ => keeps_pure _
  · exact keeps_pass.bind fun _ => (h.nodeBefore _ false false).bind fun _ =>
      (h.valueBefore _ false false).bind fun _ => (h.flowEntries false).bind fun _ => keeps_pure _
  · exact (h.node false false).bind fun _ => (h.flowEntries false).bind fun _ => keeps_pure _

theorem keepNodes_succ : KeepNodes (fuel + 1) where
  node := keeps_node_succ h
  content := keeps_content_succ h
  nodeBefore := keeps_nodeBefore_succ h
  valueBefore := keeps_valueBefore_succ h
  blockItems := keeps_blockItems_succ h
  looseItems := keeps_looseItems_succ h
  blockEntries := keeps_blockEntries_succ h
  flowItems := keeps_flowItems_succ h
  flowEntries := keeps_flowEntries_succ h

end Succ

theorem keepNodes (fuel : Nat) : KeepNodes fuel := by
  induction fuel with
  | zero => exact keepNodes_zero
  | succ fuel ih => exact keepNodes_succ ih

/-! ### Documents -/

theorem keeps_directives (fuel : Nat) (versionSeen : Bool) :
    KeepsNodes (directives fuel versionSeen) := by
  induction fuel generalizing versionSeen with
  | zero => exact keeps_malformed
  | succ fuel ih =>
    refine keeps_peek.bind fun t => ?_
    split
    · exact keeps_pass.bind fun _ => (keeps_require _).bind fun _ => ih true
    · exact keeps_pass.bind fun _ => keeps_get.bind fun _ => (keeps_require _).bind fun _ =>
        Keeps.bind (keeps_modify_of_eq fun _ => rfl) fun _ => ih versionSeen
    · exact keeps_pass.bind fun _ => ih versionSeen
    · exact keeps_pure _

theorem keeps_documentStart (fuel : Nat) : KeepsNodes (documentStart fuel) :=
  Keeps.bind (keeps_modify_of_eq fun _ => rfl) fun _ => (keeps_directives fuel false).bind fun _ =>
    Keeps.bind (keeps_modify_of_eq fun _ => rfl) fun _ => keeps_expect _

theorem keeps_ends (fuel : Nat) : KeepsNodes (ends fuel) := by
  induction fuel with
  | zero => exact keeps_malformed
  | succ fuel ih =>
    refine keeps_peek.bind fun t => ?_
    split
    · exact keeps_pass.bind fun _ => ih
    · exact keeps_pure _
    · exact (keeps_documentStart fuel).bind fun _ => keeps_malformed

theorem keeps_documentContent (fuel : Nat) : KeepsNodes (documentContent fuel) := by
  refine keeps_peek.bind fun t => ?_
  split
  · exact keeps_pure _
  · exact keeps_pure _
  · exact keeps_pure _
  · exact keeps_pure _
  · exact (keepNodes fuel).node true false

theorem keeps_stream (fuel : Nat) : KeepsNodes (stream fuel) := by
  have hdocument : KeepsNodes (do
      documentStart fuel
      let n ← documentContent fuel
      ends fuel
      return some n) :=
    (keeps_documentStart fuel).bind fun _ => (keeps_documentContent fuel).bind fun _ =>
      (keeps_ends fuel).bind fun _ => keeps_pure _
  refine keeps_peek.bind fun t => ?_
  split
  · exact keeps_pure _
  · exact hdocument
  · exact hdocument
  · exact ((keepNodes fuel).node true false).bind fun _ =>
      (keeps_ends fuel).bind fun _ => keeps_pure _

end Reader

/-- A text that forms no node is not well-formed, has a fault of its own, or shows a number that is
too great. -/
theorem Node.ofSource_eq_error {s : Source} {fault : Fault} (h : Node.ofSource s = .error fault)
    (hfault : fault ≠ .malformed) : s.fault = some fault ∨ Shows s.chars fault := by
  have hstream := Outcome.map_eq_error_iff.mp (show Prod.fst <$> _ = _ from h)
  exact ((Reader.keeps_stream (Reader.bound s) _).explains hstream).resolve_left hfault

end PinLedger.Yaml

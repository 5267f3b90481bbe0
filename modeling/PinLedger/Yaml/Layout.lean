/-
# From a YAML text to its tokens

Indentation and the place of a colon decide what a word is: a word becomes a key only when the
colon behind it is met, so the words that may still become keys are kept, one for each depth of
brackets. A word that has to be a key, as it stands where its table is indented, must meet its
colon on its own line. Tokens are made when they are asked for, and no further than it takes to
know that the next one is not a word that may become a key.

Key definitions: `Layout`, `Tokenizer`, `Layout.makeToken`, `Layout.nextToken`.
-/
import PinLedger.Yaml.Token

namespace PinLedger.Yaml

/-- A word that may become a key. -/
structure PendingKey where
  /-- The number of tokens before it. -/
  position : Nat
  required : Bool
  index : Nat
  line : Nat
  column : Nat
deriving Repr

/-- What is known of a text while its tokens are made. -/
structure Layout where
  cursor : Cursor
  /-- The tokens that were made and are not taken yet. -/
  tokens : List Token
  /-- How many tokens were taken. -/
  taken : Nat
  /-- How many brackets are open. -/
  depth : Nat
  /-- The indentation of the block, -1 outside of all. -/
  indent : Int
  outer : List Int
  /-- May the next word become a key? -/
  keyAllowed : Bool
  /-- The words that may become keys, by depth. -/
  pending : List (Nat × PendingKey)
  /-- Is the end of the text reached? -/
  done : Bool

/-- Steps that make tokens. -/
abbrev Tokenizer := Reading Layout

namespace Layout

open Reading (malformed require)

/-- The beginning of a text. -/
def ofSource (s : Source) : Layout := ⟨Cursor.ofSource s, [], 0, 0, -1, [], true, [], false⟩

/-- Is the text inside brackets? -/
def inFlow (l : Layout) : Bool := l.depth != 0

/-- The number of the next token to be made. -/
def position (l : Layout) : Nat := l.taken + l.tokens.length

/-- Puts a token in front of the token of a number. -/
def insert (l : Layout) (position : Nat) (t : Token) : Layout :=
  { l with tokens := l.tokens.insertIdx (position - l.taken) t }

/-- Adds a token. -/
def push (l : Layout) (t : Token) : Layout := { l with tokens := l.tokens ++ [t] }

/-- The word that may become a key at the present depth. -/
def candidate? (l : Layout) : Option PendingKey := l.pending.lookup l.depth

/-- Without the word at the present depth. -/
def withoutCandidate (l : Layout) : Layout :=
  { l with pending := l.pending.filter (·.1 != l.depth) }

/-- Closes the blocks that are indented deeper than a column. -/
def unindent (column : Int) : List Int → Layout → Layout
  | outer, l =>
    if l.inFlow || l.indent ≤ column then l
    else match outer with
      | i :: more => unindent column more ({ l with indent := i, outer := more }.push .blockEnd)
      | [] => l
  termination_by outer => outer.length

/-- Closes the blocks that are indented deeper than a column. -/
def unwind (l : Layout) (column : Int) : Layout := unindent column l.outer l

/-- Opens a block at a column, in front of the token of a number, if it is indented deeper than the
present one. Inside brackets there are no blocks. -/
def openBlock (l : Layout) (column position : Nat) (start : Token) : Layout :=
  if !l.inFlow && l.indent < column then
    { l with indent := column, outer := l.indent :: l.outer }.insert position start
  else l

/-- Steps that read the text. -/
def scan {α : Type} (m : Scan α) : Tokenizer α :=
  m.within cursor fun c l => { l with cursor := c }

/-! ### Words that may become keys -/

/-- Gives up the word at the present depth; one that has to be a key cannot be given up. -/
def dropCandidate : Tokenizer Unit := do
  match (← get).candidate? with
  | some k => if k.required then malformed else modify withoutCandidate
  | none => return ()

/-- The longest way from a word to its colon. -/
def maxKeyLength : Nat := 1024

/-- Would the colon of a word come too late? -/
def isLate (l : Layout) (k : PendingKey) : Bool :=
  k.line != l.cursor.line || k.index + maxKeyLength < l.cursor.index

/-- Gives up the words whose colon would come too late. -/
def dropLate : Tokenizer Unit := do
  let l ← get
  require !(l.pending.any fun p => l.isLate p.2 && p.2.required)
  modify fun l => { l with pending := l.pending.filter fun p => !l.isLate p.2 }

/-- Keeps the word that begins here, if it may become a key. -/
def saveCandidate : Tokenizer Unit := do
  let l ← get
  if l.keyAllowed then
    dropCandidate
    let c := l.cursor
    let required := !l.inFlow && l.indent == c.column
    let key : PendingKey := ⟨l.position, required, c.index, c.line, c.column⟩
    modify fun l => { l with pending := (l.depth, key) :: l.pending }

/-- May a key follow? -/
def allowKey (allowed : Bool) : Tokenizer Unit := modify fun l => { l with keyAllowed := allowed }

/-! ### One token after the other -/

/-- Drops blanks, comments and line ends. A byte order mark may begin the text. -/
def skipToToken : Nat → Tokenizer Unit
  | 0 => malformed
  | fuel + 1 => do
    scan Scan.skipComment
    if ← scan Scan.atBreak then
      let _ ← scan Scan.readBreak
      modify fun l => { l with keyAllowed := l.keyAllowed || !l.inFlow }
      skipToToken fuel

/-- Drops a byte order mark. -/
def skipMark : Tokenizer Unit := do
  if (← get).cursor.index = 0 then
    if ← scan (Scan.isAt '\uFEFF') then scan Scan.skip

/-- Closes all blocks before a directive, a document mark or the end. -/
def closeAll : Tokenizer Unit := do
  modify (·.unwind (-1))
  dropCandidate
  allowKey false

/-- The end of the text. -/
def streamEnd : Tokenizer Unit := do
  closeAll
  modify fun l => { l with done := true }.push .streamEnd

/-- A directive. -/
def directive : Tokenizer Unit := do
  closeAll
  let t ← scan Token.readDirective
  modify (·.push t)

/-- A sign of some characters. -/
def sign (t : Token) (length : Nat := 1) : Tokenizer Unit := do
  scan (Scan.skip length)
  modify (·.push t)

/-- The beginning or end of a document. -/
def documentMark (t : Token) : Tokenizer Unit := do
  closeAll
  sign t 3

/-- An opening bracket. -/
def openFlow (t : Token) : Tokenizer Unit := do
  saveCandidate
  modify fun l => { l with depth := l.depth + 1, keyAllowed := true }
  sign t

/-- A closing bracket. -/
def closeFlow (t : Token) : Tokenizer Unit := do
  dropCandidate
  modify fun l => { l with depth := l.depth - 1, keyAllowed := false }
  sign t

/-- A comma. -/
def flowEntry : Tokenizer Unit := do
  allowKey true
  dropCandidate
  sign .flowEntry

/-- Opens a block where a sign stands. Outside of brackets the sign has to stand where a key may. -/
def openBlockHere (start : Token) : Tokenizer Unit := do
  let l ← get
  require (l.inFlow || l.keyAllowed)
  modify fun l => l.openBlock l.cursor.column l.position start

/-- A dash. -/
def blockEntry : Tokenizer Unit := do
  openBlockHere .blockListStart
  allowKey true
  dropCandidate
  sign .blockEntry

/-- A question mark, or a colon that no word stands before. -/
def bareSign (t : Token) : Tokenizer Unit := do
  openBlockHere .blockTableStart
  allowKey !(← get).inFlow
  dropCandidate
  sign t

/-- A colon: the word before it becomes a key, if there is one. -/
def colon : Tokenizer Unit := do
  match (← get).candidate? with
  | some k =>
    modify fun l => (l.withoutCandidate.insert k.position .key).openBlock k.column k.position
      .blockTableStart
    allowKey false
    sign .value
  | none => bareSign .value

/-- A word, after which no key may follow on its line. -/
def word (read : Scan Token) : Tokenizer Unit := do
  saveCandidate
  allowKey false
  let t ← scan read
  modify (·.push t)

/-- A block scalar. -/
def block (folded : Bool) : Tokenizer Unit := do
  allowKey true
  dropCandidate
  let s ← scan (Token.readBlock folded (← get).indent)
  modify (·.push (.scalar s false))

/-- A plain scalar. A key may follow where it ends at the beginning of a line. -/
def plain : Tokenizer Unit := do
  saveCandidate
  let l ← get
  let (cs, newLine) ←
    scan (Token.readPlain l.inFlow (l.indent + 1) (l.cursor.size + 1) [] false)
  allowKey newLine
  modify (·.push (.scalar (String.ofList cs) true))

/-- Reads a quoted scalar. -/
def readQuotedToken (double : Bool) : Scan Token := do
  Scan.skip
  let cs ← Token.readQuoted double ((← get).size + 1)
  return .scalar (String.ofList cs) false

/-- Reads a name that is given or used. -/
def readNameToken (make : String → Token) : Scan Token := do
  return make (← Token.readAnchor)

/-- May a plain scalar begin with a character? After some signs it depends on the next one. -/
def startsPlain (inFlow : Bool) (d : Char) : Scan Bool := do
  if isGap d || isBreak d || "-?:,[]\x7b\x7d#&*!|>'\"%@\x60".toList.contains d then
    return !endsWord (← Scan.peek 1) && (d == '-' || (!inFlow && (d == '?' || d == ':')))
  else return true

/-- Is a character a sign that is a word of its own? Inside brackets anything may follow it. -/
def standsAlone (inFlow : Bool) (sign d : Char) : Scan Bool := do
  if d != sign then return false
  else if inFlow then return true
  else return endsWord (← Scan.peek 1)

/-- Makes the token that begins with a character, which is no mark of a document. -/
def makeTokenAt (inFlow : Bool) (d : Char) : Tokenizer Unit := do
  if d == '[' then openFlow .listStart
  else if d == '\x7b' then openFlow .tableStart
  else if d == ']' then closeFlow .listEnd
  else if d == '\x7d' then closeFlow .tableEnd
  else if d == ',' then flowEntry
  else if ← scan (standsAlone false '-' d) then blockEntry
  else if ← scan (standsAlone inFlow '?' d) then bareSign .key
  else if ← scan (standsAlone inFlow ':' d) then colon
  else if d == '*' then word (readNameToken .alias)
  else if d == '&' then word (readNameToken .anchor)
  else if d == '!' then word Token.readTag
  else if d == '|' && !inFlow then block false
  else if d == '>' && !inFlow then block true
  else if d == '\'' then word (readQuotedToken false)
  else if d == '"' then word (readQuotedToken true)
  else if ← scan (startsPlain inFlow d) then plain
  else malformed

/-- Makes the next token, and those that it opens or closes blocks with. -/
def makeToken : Tokenizer Unit := do
  skipMark
  skipToToken ((← get).cursor.size + 1)
  dropLate
  modify fun l => l.unwind l.cursor.column
  let l ← get
  match ← scan Scan.peek with
  | none => streamEnd
  | some d =>
    if d == '%' && l.cursor.column == 0 then directive
    else if (d == '-' || d == '.') && l.cursor.column == 0 then
      if ← scan Scan.atDocumentMark then
        documentMark (if d == '-' then .documentStart else .documentEnd)
      else makeTokenAt l.inFlow d
    else makeTokenAt l.inFlow d

/-- Makes tokens until the next one is known: there is one, and it is no word that may become a
key. -/
def makeNext : Nat → Tokenizer Unit
  | 0 => malformed
  | fuel + 1 => do
    if !(← get).done then
      if (← get).tokens.isEmpty then
        makeToken
        makeNext fuel
      else
        dropLate
        let l ← get
        if l.pending.any fun p => p.2.position == l.taken then
          makeToken
          makeNext fuel

/-- The next token. -/
def nextToken : Tokenizer Token := do
  makeNext ((← get).cursor.size + 2)
  return (← get).tokens.head?.getD .streamEnd

/-- Takes the next token. -/
def takeToken : Tokenizer Unit := modify fun l =>
  { l with tokens := l.tokens.tail, taken := l.taken + 1 }

end Layout

end PinLedger.Yaml

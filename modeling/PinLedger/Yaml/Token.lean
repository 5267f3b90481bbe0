/-
# YAML tokens

The tokens of a YAML text. A token stands for a sign, a scalar, a property of a node, or a change
of indentation. An escape for a character that there is none of is no fault of the text but one of
the number, as is a version that is too long.

Key definitions: `Token`, `Token.plain`, `Token.quoted`, `Token.block`, `Token.readTag`,
`Token.readDirective`.
-/
import PinLedger.Number.Decimal
import PinLedger.Yaml.Cursor

namespace PinLedger.Yaml

/-- A directive: a version, a handle for tags, or something else. -/
inductive Directive where
  | version (major : Nat)
  | handle (name meaning : String)
  | other
deriving DecidableEq, Repr

/-- A token. -/
inductive Token where
  | directive (d : Directive)
  | documentStart
  | documentEnd
  | streamEnd
  | blockListStart
  | blockTableStart
  | blockEnd
  | listStart
  | listEnd
  | tableStart
  | tableEnd
  | key
  | value
  | blockEntry
  | flowEntry
  | alias (name : String)
  | anchor (name : String)
  | tag (handle : Option String) (suffix : String)
  | scalar (text : String) (plain : Bool)
deriving DecidableEq, Repr, Inhabited

namespace Token

open Reading (malformed require)

/-- A character of a handle or of the name of an anchor. -/
def isNameChar (c : Char) : Bool := c.isAlphanum || c == '-' || c == '_'

/-! ### Directives, anchors and tags -/

/-- May the name of an anchor end here? -/
def endsName : Option Char → Bool
  | some d => isGap d || isBreak d || "?:,]\x7d%@\x60".toList.contains d
  | none => true

/-- Reads the name of an anchor. -/
def readAnchor : Scan String := do
  Scan.skip
  let name ← Scan.takeWhile isNameChar
  require !name.isEmpty
  require (endsName (← Scan.peek))
  return String.ofList name

/-- Reads a handle: one or two `!` with a name between them. -/
def readHandle : Scan String := do
  require (← Scan.isAt '!')
  Scan.skip
  if ← Scan.isAt ' ' then return "!"
  else
    let name ← Scan.takeWhile isNameChar
    require (← Scan.isAt '!')
    Scan.skip
    return String.ofList ('!' :: name ++ ['!'])

/-- A character of a uri. -/
def isUriChar (c : Char) : Bool :=
  c.isAlphanum || "-;/?:@&=+$,_.!~*'()[]".toList.contains c

/-- The hexadecimal digit some places on. -/
def hexDigit (n : Nat) : Scan Char := do
  match ← Scan.peek n with
  | some d => if (Number.digit? d).any (· < 16) then return d else malformed
  | none => malformed

/-- Some hexadecimal digits, the first of them some places on. -/
def hexDigits : (length : Nat) → (n : Nat) → Scan (List Char)
  | 0, _ => return []
  | length + 1, n => do
    let d ← hexDigit n
    return d :: (← hexDigits length (n + 1))

/-- Reads octets that are written as `%` with two hexadecimal digits. -/
def readUriOctets : Nat → Scan (List UInt8)
  | 0 => malformed
  | fuel + 1 => do
    if ← Scan.isAt '%' then
      Scan.skip
      let octet := Number.ofDigits 16 (← hexDigits 2 0)
      Scan.skip 2
      return UInt8.ofNat octet :: (← readUriOctets fuel)
    else return []

/-- Reads the characters of a uri. -/
def readUriChars : Nat → Scan (List Char)
  | 0 => malformed
  | fuel + 1 => do
    let cs ← Scan.takeWhile isUriChar
    if ← Scan.isAt '%' then
      match Document.decodeUtf8? (← readUriOctets ((← get).size + 1)) with
      | some s => return cs ++ s.toList ++ (← readUriChars fuel)
      | none => malformed
    else return cs

/-- Reads a uri of at least one character. -/
def readUri : Scan String := do
  let start := (← get).index
  let cs ← readUriChars ((← get).size + 1)
  require ((← get).index != start)
  return String.ofList cs

/-- Does a word in front have a handle: is there a `!` in it? -/
def hasHandle : Scan Bool := do
  let word := ((← get).rest.drop 1).takeWhile fun d => !(d == ' ' || isBreak d || d == '!')
  return (← Scan.peek (word.length + 1)) == some '!'

/-- Reads a tag in full, the lone `!`, or a tag with a handle. -/
def readTagBody : Scan Token := do
  let next ← Scan.peek 1
  if next == some '<' then
    Scan.skip 2
    let uri ← readUri
    require (← Scan.isAt '>')
    Scan.skip
    return .tag none uri
  else if endsWord next then
    Scan.skip
    return .tag none "!"
  else if ← hasHandle then
    let handle ← readHandle
    return .tag (some handle) (← readUri)
  else
    Scan.skip
    return .tag (some "!") (← readUri)

/-- Reads a tag. -/
def readTag : Scan Token := do
  let token ← readTagBody
  require (endsPlainly (← Scan.peek))
  return token

/-- Goes to the next line, behind nothing but blanks and a comment. -/
def skipRestOfLine : Scan Unit := do
  Scan.skipComment
  require (endsLine (← Scan.peek))
  let _ ← Scan.readBreak

/-- The number of a version, which may have too many digits. -/
def versionOf (ds : List Char) : Scan Nat := do
  if Number.writtenDigits < ds.length then throw .outOfRange else return Number.ofDigits 10 ds

/-- Reads the number of a version. -/
def readVersionNumber : Scan Nat := do
  let ds := (← get).rest.takeWhile Number.isDigit
  let _ ← Scan.peek ds.length
  require !ds.isEmpty
  let n ← versionOf ds
  Scan.skip ds.length
  return n

/-- Reads the version that a directive gives. -/
def readVersion : Scan Directive := do
  Scan.skipWhile (· == ' ')
  let major ← readVersionNumber
  require (← Scan.isAt '.')
  Scan.skip
  let _ ← readVersionNumber
  require (endsPlainly (← Scan.peek))
  return .version major

/-- Reads the handle that a directive gives a meaning to. -/
def readMeaning : Scan Directive := do
  Scan.skipWhile (· == ' ')
  let name ← readHandle
  require (← Scan.isAt ' ')
  Scan.skipWhile (· == ' ')
  let meaning ← readUri
  require (endsPlainly (← Scan.peek))
  return .handle name meaning

/-- Reads what a directive of a name says. -/
def readDirectiveBody (name : String) : Scan Directive :=
  if name = "YAML" then readVersion
  else if name = "TAG" then readMeaning
  else do
    Scan.skipLine
    return .other

/-- Reads a directive up to the end of its line. -/
def readDirective : Scan Token := do
  Scan.skip
  let name ← Scan.takeWhile isNameChar
  require (!name.isEmpty && endsPlainly (← Scan.peek))
  let d ← readDirectiveBody (String.ofList name)
  skipRestOfLine
  return .directive d

/-! ### Plain scalars -/

/-- Does a plain scalar stop before a character, given the one behind it? -/
def stopsPlain (inFlow : Bool) (c : Char) (next : Option Char) : Bool :=
  isGap c || isBreak c
    || (c == ':' && (endsWord next
      || (inFlow && (next.map ",[]\x7b\x7d".toList.contains).getD false)))
    || (inFlow && ",?[]\x7b\x7d".toList.contains c)

/-- The characters of a plain scalar up to a blank or its end. -/
def plainWord (inFlow : Bool) : List Char → List Char
  | [] => []
  | c :: rest => if stopsPlain inFlow c rest.head? then [] else c :: plainWord inFlow rest

/-- Reads a word of a plain scalar, nothing where a comment begins. Whether a colon ends the word
shows in the character behind it. -/
def readPlainWord (inFlow : Bool) : Scan (List Char) := do
  if ← Scan.isAt '#' then return []
  else
    let word := plainWord inFlow (← get).rest
    let d ← Scan.peek word.length
    let _ ← Scan.peek (if d == some ':' then word.length + 1 else word.length)
    Scan.skip word.length
    return word

/-- The ends of the empty lines in front, nothing if there is a mark that ends the scalar. -/
def plainBreaks : Nat → Scan (Option (List Char))
  | 0 => malformed
  | fuel + 1 => do
    if ← Scan.isAt ' ' then
      Scan.skip
      plainBreaks fuel
    else if ← Scan.atBreak then
      let b ← Scan.readBreak
      if ← Scan.atDocumentMark then return none
      else return (← plainBreaks fuel).map (b ++ ·)
    else return some []

/-- What blanks between two words of a plain scalar count as. -/
structure PlainGap where
  /-- The characters that stand for the blanks; none if the scalar is over. -/
  chars : List Char
  /-- Has a new line begun? -/
  newLine : Bool

/-- What a line end in a scalar counts as, with the ends of the empty lines behind it. -/
def foldBreaks (b bs : List Char) : List Char :=
  (if b != ['\n'] then b else if bs.isEmpty then [' '] else []) ++ bs

/-- Reads the blanks behind a word of a plain scalar. -/
def readPlainGap : Scan PlainGap := do
  let spaces ← Scan.takeWhile (· == ' ')
  if ← Scan.atBreak then
    let b ← Scan.readBreak
    if ← Scan.atDocumentMark then return ⟨[], true⟩
    else match ← plainBreaks ((← get).size + 1) with
      | none => return ⟨[], true⟩
      | some bs => return ⟨foldBreaks b bs, true⟩
  else return ⟨spaces, false⟩

/-- Reads the words of a plain scalar; `gap` stands before the next one. The flag tells whether
the scalar ends at the beginning of a line. -/
def readPlain (inFlow : Bool) (indent : Int) : Nat → (gap : List Char) → (newLine : Bool) →
    Scan (List Char × Bool)
  | 0, _, _ => malformed
  | fuel + 1, gap, newLine => do
    let word ← readPlainWord inFlow
    if word.isEmpty then return ([], newLine)
    else
      let g ← readPlainGap
      if g.chars.isEmpty || (← Scan.isAt '#') || (!inFlow && (← get).column < indent) then
        return (gap ++ word, g.newLine)
      else
        let (more, newLine) ← readPlain inFlow indent fuel g.chars g.newLine
        return (gap ++ word ++ more, newLine)

/-! ### Quoted scalars -/

/-- The character of a single-letter escape. -/
def simpleEscape? : Char → Option Char
  | '0' => some '\x00'
  | 'a' => some '\x07'
  | 'b' => some '\x08'
  | 't' => some '\t'
  | '\t' => some '\t'
  | 'n' => some '\n'
  | 'v' => some '\x0b'
  | 'f' => some '\x0c'
  | 'r' => some '\r'
  | 'e' => some '\x1b'
  | ' ' => some ' '
  | '"' => some '"'
  | '\\' => some '\\'
  | '/' => some '/'
  | 'N' => some '\u0085'
  | '_' => some '\u00A0'
  | 'L' => some '\u2028'
  | 'P' => some '\u2029'
  | _ => none

/-- How many hexadecimal digits follow the letter of an escape. -/
def codeLength? : Char → Option Nat
  | 'x' => some 2
  | 'u' => some 4
  | 'U' => some 8
  | _ => none

/-- The greatest number of a character. -/
def maxCode : Nat := 0x10FFFF

/-- The greatest number that is looked up at all. -/
def maxLookedUp : Nat := 0x7FFFFFFF

/-- The fault of a number that is greater than that of any character. -/
def codeFault (code : Nat) : Fault := if code ≤ maxLookedUp then .outOfRange else .tooLarge

/-- The character of a number. Half of a pair, which is no character, is stood for by one at the
end of the last private plane. -/
def charOf (code : Nat) : Char :=
  if 0xD800 ≤ code ∧ code ≤ 0xDFFF then Char.ofNat (0x10F800 + (code - 0xD800))
  else Char.ofNat code

/-- The ends of the empty lines in front; a mark of a document is no part of a quoted scalar. -/
def quotedBreaks : Nat → Scan (List Char)
  | 0 => malformed
  | fuel + 1 => do
    require !(← Scan.atDocumentMark)
    Scan.skipWhile isGap
    if ← Scan.atBreak then
      let b ← Scan.readBreak
      return b ++ (← quotedBreaks fuel)
    else return []

/-- The character of a number, if there is one. -/
def charOfCode (code : Nat) : Scan Char := do
  if maxCode < code then throw (codeFault code) else return charOf code

/-- Reads a character by its number, behind the letter of the escape. -/
def readCode (length : Nat) : Scan Char := do
  let c ← charOfCode (Number.ofDigits 16 (← hexDigits length 0))
  Scan.skip length
  return c

/-- Reads an escape. -/
def readEscape : Scan (List Char) := do
  Scan.skip
  match ← Scan.peek with
  | none => malformed
  | some d =>
    match simpleEscape? d, codeLength? d with
    | some e, _ =>
      Scan.skip
      return [e]
    | none, some length =>
      Scan.skip
      return [← readCode length]
    | none, none =>
      if isBreak d then
        let _ ← Scan.readBreak
        quotedBreaks ((← get).size + 1)
      else malformed

/-- Reads the blanks inside a quoted scalar: those at the end of a line count as one. -/
def readQuotedGap : Scan (List Char) := do
  let spaces ← Scan.takeWhile isGap
  match ← Scan.peek with
  | none => malformed
  | some d =>
    if isBreak d then
      let b ← Scan.readBreak
      return foldBreaks b (← quotedBreaks ((← get).size + 1))
    else return spaces

/-- A character that stands for itself in every quoted scalar. -/
def isQuotedChar (c : Char) : Bool :=
  !(c == '\'' || c == '"' || c == '\\' || isGap c || isBreak c)

/-- Reads the next part of a quoted scalar, nothing at its closing quote. -/
def readQuotedPart (double : Bool) : Scan (Option (List Char)) := do
  match ← Scan.peek with
  | none => malformed
  | some d =>
    if d == '\\' && double then return some (← readEscape)
    else if d == '\'' && !double then
      if (← Scan.peek 1) == some '\'' then
        Scan.skip 2
        return some ['\'']
      else return none
    else if d == '"' && double then return none
    else if isGap d || isBreak d then return some (← readQuotedGap)
    else if isQuotedChar d then return some (← Scan.takeWhile isQuotedChar)
    else
      Scan.skip
      return some [d]

/-- Reads a quoted scalar behind its opening quote, and its closing quote. -/
def readQuoted (double : Bool) : Nat → Scan (List Char)
  | 0 => malformed
  | fuel + 1 => do
    match ← readQuotedPart double with
    | some cs => return cs ++ (← readQuoted double fuel)
    | none =>
      Scan.skip
      return []

/-! ### Block scalars -/

/-- What happens to the line ends behind a block scalar. -/
inductive Chomping where
  | strip
  | clip
  | keep
deriving DecidableEq, Repr

/-- Reads a sign for the line ends at the end, if there is one. -/
def readChomping? : Scan (Option Chomping) := do
  match ← Scan.peek with
  | some '+' =>
    Scan.skip
    return some .keep
  | some '-' =>
    Scan.skip
    return some .strip
  | _ => return none

/-- Reads the depth of a block scalar, a digit from 1 to 9, if there is one. -/
def readDepth? : Scan (Option Nat) := do
  match ← Scan.peek with
  | some d =>
    if d == '0' then malformed
    else if Number.isDigit d then
      Scan.skip
      return Number.digit? d
    else return none
  | none => return none

/-- Reads the signs behind `|` or `>`, in either order. -/
def readBlockSigns : Scan (Chomping × Option Nat) := do
  match ← readChomping? with
  | some chomping => return (chomping, ← readDepth?)
  | none =>
    match ← readDepth? with
    | some depth => return ((← readChomping?).getD .clip, some depth)
    | none => return (.clip, none)

/-- The ends of the empty lines in front and the greatest column that spaces reach. -/
def blockIndentation : Nat → (most : Nat) → Scan (List Char × Nat)
  | 0, _ => malformed
  | fuel + 1, most => do
    if ← Scan.isAt ' ' then
      Scan.skip
      blockIndentation fuel (max most (← get).column)
    else if ← Scan.atBreak then
      let b ← Scan.readBreak
      let (bs, most) ← blockIndentation fuel most
      return (b ++ bs, most)
    else return ([], most)

/-- Drops spaces up to a column. -/
def skipIndent (indent : Nat) : Scan Unit := do
  let c ← get
  Scan.skip (min (c.rest.takeWhile (· == ' ')).length (indent - c.column))

/-- The ends of the empty lines in front, with spaces dropped up to a column. -/
def blockBreaks (indent : Nat) : Nat → Scan (List Char)
  | 0 => malformed
  | fuel + 1 => do
    skipIndent indent
    if ← Scan.atBreak then
      let b ← Scan.readBreak
      return b ++ (← blockBreaks indent fuel)
    else return []

/-- Does the line at the cursor belong to a block scalar? -/
def inBlock (indent : Nat) : Scan Bool := do
  return (← get).column == indent && (← Scan.peek).isSome

/-- What stands between two lines of a block scalar. A folded one joins lines that do not begin
with a blank. -/
def blockJoin (folded : Bool) (b bs : List Char) (before after : Option Char) : List Char :=
  let indented (c : Option Char) : Bool := (c.map isGap).getD false
  if folded && b == ['\n'] && !indented before && !indented after then
    if bs.isEmpty then [' '] else []
  else b

/-- Reads the lines of a block scalar; `breaks` stand before the next one. -/
def readBlockLines (folded : Bool) (chomping : Chomping) (indent : Nat) : Nat →
    (breaks : List Char) → Scan (List Char)
  | 0, _ => malformed
  | fuel + 1, breaks => do
    let front ← Scan.peek
    let line ← Scan.takeWhile fun d => !isBreak d
    let b ← Scan.readBreak
    let bs ← blockBreaks indent ((← get).size + 1)
    if ← inBlock indent then
      let between := blockJoin folded b bs front (← Scan.peek)
      let more ← readBlockLines folded chomping indent fuel bs
      return breaks ++ line ++ between ++ more
    else
      let tail := match chomping with
        | .strip => []
        | .clip => b
        | .keep => b ++ bs
      return breaks ++ line ++ tail

/-- Goes to the first line of a block scalar that is not empty, and gives the ends of those before
it and the indentation, which is that line's if no depth is given. -/
def readBlockStart (outer : Int) (depth : Option Nat) : Scan (List Char × Nat) := do
  let least := max 1 (outer + 1).toNat
  match depth with
  | some d =>
    let indent := least + d - 1
    return (← blockBreaks indent ((← get).size + 1), indent)
  | none =>
    let (bs, most) ← blockIndentation ((← get).size + 1) 0
    return (bs, max least most)

/-- Reads a block scalar inside a block of the given indentation. -/
def readBlock (folded : Bool) (outer : Int) : Scan String := do
  Scan.skip
  let (chomping, depth) ← readBlockSigns
  require (endsPlainly (← Scan.peek))
  skipRestOfLine
  let (bs, indent) ← readBlockStart outer depth
  if ← inBlock indent then
    return String.ofList (← readBlockLines folded chomping indent ((← get).size + 1) bs)
  else
    return String.ofList (match chomping with
      | .keep => bs
      | _ => [])

end Token

end PinLedger.Yaml

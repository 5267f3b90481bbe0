/-
# Literal values

A literal value is a text in quotes, octets, a number, `None`, `True`, `False`, `...`, `set()`, or a
tuple, list, set or table of literal values. A number may have a sign, and a complex number is a sum.
Only whether a text is a literal value is asked for, never which.

A text is cut into tokens first. A line end parts tokens inside brackets only; elsewhere nothing
but comments may follow it.

Key definitions: `tokens?`, `Kind`, `readMembers?`, `isLiteral`.
-/
import PinLedger.Number.Decimal

namespace PinLedger.Literal

/-- A token. Of a number it is known if it is small enough for a double. -/
inductive Token where
  | real (fits : Bool)
  | imaginary
  | text
  | octets
  | constant
  | setName
  | mark (c : Char)
  | stop
deriving DecidableEq, Repr

/-! ### Numbers -/

/-- Is the character a digit of the base? -/
def isDigitOf (base : Nat) (c : Char) : Bool := ((Number.digit? c).getD base) < base

/-- The digits in front of a text. A low line may stand between two of them, or in front. -/
def readMore (isDigit : Char → Bool) : List Char → List Char × List Char
  | [] => ([], [])
  | '_' :: c :: cs =>
    if isDigit c then
      let (ds, rest) := readMore isDigit cs
      (c :: ds, rest)
    else ([], '_' :: c :: cs)
  | c :: cs =>
    if isDigit c then
      let (ds, rest) := readMore isDigit cs
      (c :: ds, rest)
    else ([], c :: cs)

/-- The decimal digits in front of a text; the first character has to be one. -/
def readDigits (cs : List Char) : List Char × List Char :=
  match cs with
  | '_' :: _ => ([], cs)
  | _ => readMore Number.isDigit cs

/-- The least whole number that is too large for a double. -/
def tooLarge : Nat := Number.powerOfTwo 1024 - Number.powerOfTwo 970

/-- The base that a letter behind a zero gives. -/
def baseOf? (c : Char) : Option Nat :=
  if c == 'x' || c == 'X' then some 16
  else if c == 'o' || c == 'O' then some 8
  else if c == 'b' || c == 'B' then some 2
  else none

/-- Reads the fraction behind a point. -/
def readFraction? (cs : List Char) : Option (List Char) :=
  match cs with
  | '.' :: more => some (readDigits more).2
  | _ => none

/-- Reads an exponent. -/
def readExponent? (cs : List Char) : Option (List Char) :=
  match cs with
  | c :: more =>
    if c == 'e' || c == 'E' then
      let unsigned := match more with
        | '+' :: rest | '-' :: rest => rest
        | _ => more
      let (ds, rest) := readDigits unsigned
      if ds.isEmpty then none else some rest
    else none
  | [] => none

/-- Reads a decimal number. A whole number has no zeros in front, and not too many digits. -/
def readDecimal? (cs : List Char) : Option (Token × List Char) :=
  let (whole, rest) := readDigits cs
  let fraction := readFraction? rest
  let rest := fraction.getD rest
  let exponent := readExponent? rest
  let rest := exponent.getD rest
  match rest with
  | 'j' :: more | 'J' :: more => some (.imaginary, more)
  | _ =>
    if fraction.isSome || exponent.isSome then some (.real true, rest)
    else if whole.all (· == '0') then some (.real true, rest)
    else if whole.head? == some '0' || Number.writtenDigits < whole.length then none
    else some (.real (Number.ofDigits 10 whole < tooLarge), rest)

/-- Reads a number. -/
def readNumber? (cs : List Char) : Option (Token × List Char) :=
  match cs with
  | '0' :: c :: more =>
    match baseOf? c with
    | some base =>
      let (ds, rest) := readMore (isDigitOf base) more
      if ds.isEmpty then none else some (.real (Number.ofDigits base ds < tooLarge), rest)
    | none => readDecimal? cs
  | _ => readDecimal? cs

/-! ### Texts -/

/-- The characters up to the closing quotes, one or three, and what stands behind. -/
def readQuoted? (quote : Char) (isLong : Bool) : List Char → Option (List Char × List Char)
  | [] => none
  | '\\' :: c :: cs => (readQuoted? quote isLong cs).map fun (body, rest) => ('\\' :: c :: body, rest)
  | c :: cs =>
    if c == quote && (!isLong || [quote, quote].isPrefixOf cs) then
      some ([], if isLong then cs.drop 2 else cs)
    else if c == '\n' && !isLong then none
    else (readQuoted? quote isLong cs).map fun (body, rest) => (c :: body, rest)

/-- Does a text begin with so many hexadecimal digits of a number up to `most`? -/
def hasCode (digits most : Nat) (cs : List Char) : Bool :=
  let ds := cs.take digits
  ds.length == digits && ds.all (isDigitOf 16) && Number.ofDigits 16 ds ≤ most

/-- Does a text begin with the name of a character in braces? -/
def hasCharacterName (cs : List Char) : Bool :=
  match cs with
  | '{' :: rest =>
    let name := rest.takeWhile fun c => c.isAlphanum || c == ' ' || c == '-'
    !name.isEmpty && (rest.drop name.length).head? == some '}'
  | _ => false

/-- Does every escape in a text stand for a character? -/
def areTextEscapes : List Char → Bool
  | '\\' :: c :: cs =>
    (match c with
      | 'x' => hasCode 2 0xFF cs
      | 'u' => hasCode 4 0xFFFF cs
      | 'U' => hasCode 8 0x10FFFF cs
      | 'N' => hasCharacterName cs
      | _ => true) && areTextEscapes cs
  | _ :: cs => areTextEscapes cs
  | [] => true

/-- Does every escape in some octets stand for an octet? -/
def areOctetEscapes : List Char → Bool
  | '\\' :: c :: cs => (c != 'x' || hasCode 2 0xFF cs) && areOctetEscapes cs
  | _ :: cs => areOctetEscapes cs
  | [] => true

/-- What the letters in front of a quote ask for. -/
structure Quoting where
  isOctets : Bool
  isRaw : Bool
deriving DecidableEq, Repr

/-- The quoting that some letters ask for. -/
def Quoting.ofPrefix? (cs : List Char) : Option Quoting :=
  [("", ⟨false, false⟩), ("u", ⟨false, false⟩), ("r", ⟨false, true⟩), ("b", ⟨true, false⟩),
    ("br", ⟨true, true⟩), ("rb", ⟨true, true⟩)].lookup (String.ofList (cs.map Char.toLower))

/-- Is what stands between the quotes in order? -/
def Quoting.accepts (q : Quoting) (body : List Char) : Bool :=
  if q.isOctets then body.all (·.toNat < 0x80) && (q.isRaw || areOctetEscapes body)
  else q.isRaw || areTextEscapes body

/-- Reads a text or octets; the first character is the quote. -/
def readString? (q : Quoting) (cs : List Char) : Option (Token × List Char) :=
  match cs with
  | [] => none
  | quote :: rest => do
    let isLong := [quote, quote].isPrefixOf rest
    let (body, rest) ← readQuoted? quote isLong (if isLong then rest.drop 2 else rest)
    if q.accepts body then some (if q.isOctets then .octets else .text, rest) else none

/-! ### Tokens -/

/-- A character of a name or a number. -/
def isWordChar (c : Char) : Bool := c.isAlphanum || c == '_'

/-- One of the two quotes. -/
def isQuote (c : Char) : Bool := c == '\'' || c == '"'

/-- A blank between tokens. -/
def isGap (c : Char) : Bool := c == ' ' || c == '\t' || c == '\x0c'

/-- The constants with names. -/
def constants : List String := ["None", "True", "False"]

/-- Reads a name, or a text with letters in front of its quote. -/
def readWord? (cs : List Char) : Option (Token × List Char) :=
  let word := cs.takeWhile isWordChar
  let rest := cs.drop word.length
  if (rest.head?.map isQuote).getD false then do readString? (← Quoting.ofPrefix? word) rest
  else if constants.contains (String.ofList word) then some (.constant, rest)
  else if String.ofList word = "set" then some (.setName, rest)
  else none

/-- Reads one token. A number does not run on into a word. -/
def readToken? (cs : List Char) : Option (Token × List Char) :=
  match cs with
  | [] => none
  | c :: rest =>
    let isPoint := c == '.' && (rest.head?.map Number.isDigit).getD false
    if Number.isDigit c || isPoint then
      match readNumber? cs with
      | some (t, rest) => if (rest.head?.map isWordChar).getD false then none else some (t, rest)
      | none => none
    else if isWordChar c || isQuote c then readWord? cs
    else if ['.', '.', '.'].isPrefixOf cs then some (.constant, cs.drop 3)
    else if ['(', ')', '[', ']', '{', '}', ',', ':', '+', '-'].contains c then some (.mark c, rest)
    else none

/-- Is there nothing but comments? -/
def isVoid : (inComment : Bool) → List Char → Bool
  | _, [] => true
  | inComment, c :: cs =>
    if c == '\n' then isVoid false cs
    else if inComment then isVoid true cs
    else if c == '#' then isVoid true cs
    else isGap c && isVoid false cs

/-- An opening bracket. -/
def Token.opens (t : Token) : Bool := t = .mark '(' || t = .mark '[' || t = .mark '{'

/-- A closing bracket. -/
def Token.closes (t : Token) : Bool := t = .mark ')' || t = .mark ']' || t = .mark '}'

/-- How deep brackets may be nested. -/
def deepest : Nat := 200

/-- The tokens of a text, `depth` brackets deep. -/
def tokensFrom? : (fuel depth : Nat) → List Char → Option (List Token)
  | 0, _, _ => none
  | _ + 1, _, [] => some [.stop]
  | fuel + 1, depth, c :: cs =>
    if isGap c then tokensFrom? fuel depth cs
    else if c == '#' then tokensFrom? fuel depth (cs.dropWhile (· != '\n'))
    else if c == '\n' then
      if depth != 0 then tokensFrom? fuel depth cs
      else if isVoid false cs then some [.stop]
      else none
    else if c == '\\' then
      match cs with
      | '\n' :: d :: more => tokensFrom? fuel depth (d :: more)
      | _ => none
    else do
      let (t, rest) ← readToken? (c :: cs)
      let depth := if t.opens then depth + 1 else if t.closes then depth - 1 else depth
      if deepest < depth then none
      let ts ← tokensFrom? fuel depth rest
      some (t :: ts)

/-- Line ends are written in one way. -/
def unifyLineEnds : List Char → List Char
  | '\r' :: '\n' :: cs => '\n' :: unifyLineEnds cs
  | '\r' :: cs => '\n' :: unifyLineEnds cs
  | c :: cs => c :: unifyLineEnds cs
  | [] => []

/-- Drops lines in front that have nothing but a comment. What stands in the first line behind them
must not be moved in. -/
def dropVoidLines? : (fuel : Nat) → List Char → Option (List Char)
  | 0, _ => none
  | fuel + 1, cs =>
    let line := cs.takeWhile (· != '\n')
    match cs.drop line.length with
    | [] => some cs
    | _ :: rest =>
      if isVoid false line then
        if (rest.head?.map fun c => c == ' ' || c == '\t').getD false then none
        else dropVoidLines? fuel rest
      else some cs

/-- The tokens of a text. -/
def tokens? (cs : List Char) : Option (List Token) := do
  let cs := unifyLineEnds (cs.dropWhile fun c => c == ' ' || c == '\t')
  if cs.contains '\x00' then none
  let cs ← dropVoidLines? (cs.length + 1) cs
  tokensFrom? (cs.length + 1) 0 cs

/-! ### Values -/

/-- What is to be known of a value: signs and sums are for numbers, and what is in a set
or a key of a table holds no list, set or table. The name `set` is no value until it is called. -/
inductive Kind where
  | real (fits : Bool)
  | signedReal (fits : Bool)
  | imaginary
  | plain
  | unhashable
  | setName
deriving DecidableEq, Repr

namespace Kind

/-- Is it a value? -/
def isValue (k : Kind) : Bool := k != .setName

/-- Can it stand in a set? -/
def isHashable (k : Kind) : Bool := k.isValue && k != .unhashable

/-- A number with a sign. -/
def signed? : Kind → Option Kind
  | .real fits => some (.signedReal fits)
  | .imaginary => some .plain
  | _ => none

/-- A sum or a difference. -/
def sum? : Kind → Kind → Option Kind
  | .real true, .imaginary | .signedReal true, .imaginary => some .plain
  | _, _ => none

/-- A tuple. -/
def tuple? (ks : List Kind) : Option Kind :=
  if ks.all isHashable then some .plain
  else if ks.all isValue then some .unhashable
  else none

end Kind

/-- A plus or a minus. -/
def isSign (t : Token) : Bool := t = .mark '+' || t = .mark '-'

/-- The name `set` is called, if it is there and brackets stand behind. -/
def callSet (k : Kind) (ts : List Token) : Kind × List Token :=
  match k, ts with
  | .setName, .mark '(' :: .mark ')' :: rest => (.unhashable, rest)
  | k, ts => (k, ts)

mutual

/-- Reads a value: a sum, a number with a sign, or a simple one. -/
def readValue? : Nat → List Token → Option (Kind × List Token)
  | 0, _ => none
  | fuel + 1, ts => do
    let (left, rest) ← match ts with
      | t :: more =>
        if isSign t then do
          let (k, rest) ← readAtom? fuel more
          pure (← k.signed?, rest)
        else readAtom? fuel ts
      | [] => none
    match rest with
    | t :: more =>
      if isSign t then do
        let (right, rest) ← readAtom? fuel more
        pure (← left.sum? right, rest)
      else some (left, rest)
    | [] => some (left, rest)

/-- Reads a value that stands without signs. -/
def readAtom? : Nat → List Token → Option (Kind × List Token)
  | 0, _ => none
  | fuel + 1, ts =>
    match ts with
    | .real fits :: rest => some (.real fits, rest)
    | .imaginary :: rest => some (.imaginary, rest)
    | .text :: rest => some (.plain, rest.dropWhile (· = .text))
    | .octets :: rest => some (.plain, rest.dropWhile (· = .octets))
    | .constant :: rest => some (.plain, rest)
    | .setName :: rest => some (callSet .setName rest)
    | .mark '(' :: rest => do
      let (ks, isList, rest) ← readMembers? fuel (.mark ')') rest
      match ks, isList with
      | [k], false => some (callSet k rest)
      | ks, _ => some (← Kind.tuple? ks, rest)
    | .mark '[' :: rest => do
      let (ks, _, rest) ← readMembers? fuel (.mark ']') rest
      if ks.all Kind.isValue then some (.unhashable, rest) else none
    | .mark '{' :: .mark '}' :: rest => some (.unhashable, rest)
    | .mark '{' :: rest => do
      let (k, rest) ← readValue? fuel rest
      if !k.isHashable then none
      match rest with
      | .mark ':' :: more => some (.unhashable, ← readPairs? fuel more)
      | .mark '}' :: more => some (.unhashable, more)
      | .mark ',' :: more => do
        let (ks, _, rest) ← readMembers? fuel (.mark '}') more
        if ks.all Kind.isHashable then some (.unhashable, rest) else none
      | _ => none
    | _ => none

/-- Reads values with commas between them, up to a closing token; a comma may also stand at the
end. It is told if there was any. -/
def readMembers? : Nat → Token → List Token → Option (List Kind × Bool × List Token)
  | 0, _, _ => none
  | fuel + 1, close, ts =>
    if ts.head? = some close then some ([], false, ts.tail)
    else do
      let (k, rest) ← readValue? fuel ts
      match rest with
      | .mark ',' :: more => do
        let (ks, _, rest) ← readMembers? fuel close more
        some (k :: ks, true, rest)
      | t :: more => if t = close then some ([k], false, more) else none
      | [] => none

/-- Reads a table behind its first colon, up to the closing brace. -/
def readPairs? : Nat → List Token → Option (List Token)
  | 0, _ => none
  | fuel + 1, ts => do
    let (value, rest) ← readValue? fuel ts
    if !value.isValue then none
    match rest with
    | .mark '}' :: rest => some rest
    | .mark ',' :: .mark '}' :: rest => some rest
    | .mark ',' :: rest => do
      let (key, rest) ← readValue? fuel rest
      if !key.isHashable then none
      match rest with
      | .mark ':' :: more => readPairs? fuel more
      | _ => none
    | _ => none

end

/-- Is a text a literal value? Several ones with commas between them are a tuple. -/
def isLiteral (cs : List Char) : Bool :=
  match tokens? cs with
  | none => false
  | some ts =>
    match readMembers? (2 * ts.length + 2) .stop ts with
    | some (ks, _, rest) => !ks.isEmpty && rest.isEmpty && ks.all Kind.isValue
    | none => false

end PinLedger.Literal

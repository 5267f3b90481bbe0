/-
# Reading regular expressions

An expression is read as a list of tokens: characters, and characters behind a backslash. Flags
that hold for the whole expression stand at its start; flags of a group hold inside the group.

Key definitions: `Regex.Token`, `Regex.Flags`, `Regex.Fault`, `Regex.parse`.
-/
import PinLedger.Number.Decimal
import PinLedger.Regex.Basic

namespace PinLedger.Regex

/-- Why a text is no regular expression. -/
inductive Fault where
  | malformed
  /-- A number of repetitions is too large. -/
  | tooLarge
  /-- Flags for the whole expression exclude each other. -/
  | flags
deriving DecidableEq, Repr

/-! ### Tokens -/

/-- A character, or a character behind a backslash. -/
inductive Token where
  | plain (c : Char)
  | escaped (c : Char)
deriving DecidableEq, Repr

/-- The tokens of a text; a backslash at its end is none. -/
def tokens? : List Char → Option (List Token)
  | [] => some []
  | '\\' :: c :: rest => (tokens? rest).map (.escaped c :: ·)
  | ['\\'] => none
  | c :: rest => (tokens? rest).map (.plain c :: ·)

/-- The plain characters in front that pass a test, at most `n` of them. -/
def takePlain (n : Nat) (p : Char → Bool) : List Token → List Char × List Token
  | .plain c :: rest =>
    match n with
    | 0 => ([], .plain c :: rest)
    | m + 1 =>
      if p c then
        let (cs, more) := takePlain m p rest
        (c :: cs, more)
      else ([], .plain c :: rest)
  | ts => ([], ts)

/-- The plain characters up to a closing one, at least one. -/
def takeName? (close : Char) (ts : List Token) : Option (List Char × List Token) :=
  let (cs, rest) := takePlain ts.length (· != close) ts
  match rest with
  | .plain _ :: more => if cs.isEmpty then none else some (cs, more)
  | _ => none

/-- A hexadecimal digit. -/
def isHex (c : Char) : Bool := ((Number.digit? c).getD 16) < 16

/-- An octal digit. -/
def isOctal (c : Char) : Bool := '0' ≤ c && c ≤ '7'

/-- May a group be called so? -/
def isGroupName (cs : List Char) : Bool :=
  match cs with
  | c :: _ => !Text.digitSet.has c && cs.all Text.wordSet.has
  | [] => false

/-! ### Flags -/

/-- What an expression is read under. -/
structure Flags where
  ignoreCase : Bool := false
  multiline : Bool := false
  dotAll : Bool := false
  verbose : Bool := false
  ascii : Bool := false
  full : Bool := false
deriving DecidableEq, Repr

namespace Flags

/-- The flag of a letter, switched on. -/
def ofLetter? : Char → Option Flags
  | 'i' => some { ignoreCase := true }
  | 'm' => some { multiline := true }
  | 's' => some { dotAll := true }
  | 'x' => some { verbose := true }
  | 'a' => some { ascii := true }
  | 'u' => some { full := true }
  | _ => none

/-- The flags of both. -/
def union (a b : Flags) : Flags :=
  ⟨a.ignoreCase || b.ignoreCase, a.multiline || b.multiline, a.dotAll || b.dotAll,
    a.verbose || b.verbose, a.ascii || b.ascii, a.full || b.full⟩

/-- The flags of one that the other lacks. -/
def without (a b : Flags) : Flags :=
  ⟨a.ignoreCase && !b.ignoreCase, a.multiline && !b.multiline, a.dotAll && !b.dotAll,
    a.verbose && !b.verbose, a.ascii && !b.ascii, a.full && !b.full⟩

/-- Does it choose between ASCII and all scripts? -/
def choosesScript (a : Flags) : Bool := a.ascii || a.full

/-- Have two sets of flags a flag in common? -/
def meets (a b : Flags) : Bool := a.without b != a

/-- The flags inside a group that switches some on and some off. -/
def change (a on off : Flags) : Flags :=
  let kept := if on.choosesScript then { a with ascii := false, full := false } else a
  (kept.union on).without off

/-- The rule for case. -/
def folding (a : Flags) : Folding :=
  if !a.ignoreCase then .exact else if a.ascii then .ascii else .full

end Flags

/-- The flags in front of a closing bracket, a colon or a minus. -/
def readOn? : Nat → Flags → Char → List Token → Option (Flags × Char × List Token)
  | 0, _, _, _ => none
  | fuel + 1, on, c, ts => do
    let flag ← Flags.ofLetter? c
    let on := on.union flag
    if flag.choosesScript && on.ascii && on.full then none
    match ts with
    | .plain d :: rest =>
      if d == ')' || d == '-' || d == ':' then some (on, d, rest) else readOn? fuel on d rest
    | _ => none

/-- The flags between a minus and a colon. -/
def readOff? : Nat → Flags → List Token → Option (Flags × List Token)
  | 0, _, _ => none
  | fuel + 1, off, ts =>
    match ts with
    | .plain c :: rest => do
      let flag ← Flags.ofLetter? c
      if flag.choosesScript then none
      let off := off.union flag
      match rest with
      | .plain ':' :: more => some (off, more)
      | _ => readOff? fuel off rest
    | _ => none

/-- What flags behind `(?` ask for. -/
inductive FlagChange where
  | whole (on : Flags)
  | inGroup (on off : Flags)

/-- Reads the flags that start with a character. -/
def readFlags? (c : Char) (ts : List Token) : Option (FlagChange × List Token) := do
  let (on, stop, rest) ← if c == '-' then some ({}, '-', ts) else readOn? (ts.length + 1) {} c ts
  if stop == ')' then return (.whole on, rest)
  let (off, rest) ← if stop == '-' then readOff? (rest.length + 1) {} rest else some ({}, rest)
  if on.meets off then none
  return (.inGroup on off, rest)

/-! ### Characters and sets -/

/-- The character of an escape with a letter of its own. -/
def simpleEscape? : Char → Option Nat
  | 'a' => some 0x7
  | 'f' => some 0xC
  | 'n' => some 0xA
  | 'r' => some 0xD
  | 't' => some 0x9
  | 'v' => some 0xB
  | '\\' => some 0x5C
  | _ => none

/-- The class of an escape, and whether it is negated. -/
def category? : Char → Option (Bool × Category)
  | 'd' => some (false, .digit)
  | 'D' => some (true, .digit)
  | 's' => some (false, .space)
  | 'S' => some (true, .space)
  | 'w' => some (false, .word)
  | 'W' => some (true, .word)
  | _ => none

/-- Reads a code point of a fixed number of hexadecimal digits. -/
def readHex? (count : Nat) (ts : List Token) : Option (Nat × List Token) :=
  let (cs, rest) := takePlain count isHex ts
  let n := Number.ofDigits 16 cs
  if cs.length = count ∧ n < 0x110000 then some (n, rest) else none

/-- Reads an escape that gives a code point by number, or a sign that stands for itself. -/
def readCode? (c : Char) (ts : List Token) : Option (Nat × List Token) :=
  if c = 'x' then readHex? 2 ts
  else if c = 'u' then readHex? 4 ts
  else if c = 'U' then readHex? 8 ts
  else if isAsciiLetterOrDigit c then none
  else some (c.toNat, ts)
where
  /-- A letter or digit of ASCII. -/
  isAsciiLetterOrDigit (c : Char) : Bool := c.isAlphanum

/-- Reads an octal escape inside a set. -/
def readOctal? (c : Char) (ts : List Token) : Option (Nat × List Token) :=
  let (cs, rest) := takePlain 2 isOctal ts
  let n := Number.ofDigits 8 (c :: cs)
  if n ≤ 0o377 then some (n, rest) else none

/-- One end of a range in a set, or a class. -/
inductive SetPart where
  | code (n : Nat)
  | items (item : SetItem)

/-- Reads a member of a set from a token. -/
def readSetPart? (f : Flags) (t : Token) (ts : List Token) : Option (SetPart × List Token) :=
  match t with
  | .plain c => some (.code c.toNat, ts)
  | .escaped c =>
    match simpleEscape? c, category? c with
    | some n, _ => some (.code n, ts)
    | _, some (negated, k) => some (.items (.category negated f.ascii k), ts)
    | _, _ =>
      if c = 'b' then some (.code 0x8, ts)
      else if isOctal c then (readOctal? c ts).map fun p => (.code p.1, p.2)
      else (readCode? c ts).map fun p => (.code p.1, p.2)

/-- A member of a set by itself. -/
def SetPart.item : SetPart → SetItem
  | .code n => .range n n
  | .items i => i

/-- Reads the members of a set up to its closing bracket. -/
def readSet? (f : Flags) : Nat → List SetItem → List Token → Option (List SetItem × List Token)
  | 0, _, _ => none
  | fuel + 1, acc, ts =>
    match ts with
    | [] => none
    | t :: rest =>
      if t = .plain ']' ∧ acc ≠ [] then some (acc.reverse, rest)
      else do
        let (part, rest) ← readSetPart? f t rest
        match rest with
        | .plain '-' :: .plain ']' :: more =>
          some ((.range 0x2D 0x2D :: part.item :: acc).reverse, more)
        | .plain '-' :: last :: more =>
          let (part2, more) ← readSetPart? f last more
          match part, part2 with
          | .code a, .code b =>
            if b < a then none else readSet? f fuel (.range a b :: acc) more
          | _, _ => none
        | [.plain '-'] => none
        | _ => readSet? f fuel (part.item :: acc) rest

/-- A single code point. -/
def one (f : Flags) (n : Nat) : Regex := .char (.set false f.folding [.range n n])

/-! ### Groups -/

/-- What is known of the groups while an expression is read. -/
structure Groups where
  /-- The widths of the groups that are closed; an open group has none yet. -/
  widths : List (Nat × Width)
  /-- How many groups were opened. -/
  opened : Nat
  names : List (String × Nat)
  /-- Inside a look-behind: the number of groups opened before it. -/
  limit : Option Nat
  /-- The largest group number that a condition asks about. -/
  asked : Nat
deriving Repr

namespace Groups

/-- No groups. -/
def empty : Groups := ⟨[], 0, [], none, 0⟩

/-- Is the group closed? -/
def isClosed (g : Groups) (n : Nat) : Bool := (g.widths.lookup n).isSome

/-- Inside a look-behind, only groups closed before it may be referred to. -/
def mayRefer (g : Groups) (n : Nat) : Bool :=
  match g.limit with
  | some limit => g.isClosed n && n ≤ limit
  | none => true

/-- A reference to a closed group. -/
def reference? (g : Groups) (f : Flags) (n : Nat) : Option Regex :=
  match g.widths.lookup n with
  | some w => if g.mayRefer n then some (.back n f.folding w.least w.most) else none
  | none => none

end Groups

/-- The state of reading: the groups so far and the flags of the whole expression. -/
structure Reading where
  groups : Groups
  flags : Flags

/-- What reading a part gives. -/
abbrev Read := Except Fault

/-- A part that cannot be read. -/
def fail {α : Type} : Read α := .error .malformed

/-- A part that may not be there, taken to be needed. -/
def need {α : Type} : Option α → Read α
  | some a => .ok a
  | none => fail

/-- Reads an escape outside of sets. -/
def readEscape (r : Reading) (f : Flags) (c : Char) (ts : List Token) : Read (Regex × List Token) :=
  match c with
  | 'A' => .ok (.anchor .textStart, ts)
  | 'Z' => .ok (.anchor .textEnd, ts)
  | 'b' => .ok (.anchor (.wordEdge false f.ascii), ts)
  | 'B' => .ok (.anchor (.wordEdge true f.ascii), ts)
  | '0' =>
    let (cs, rest) := takePlain 2 isOctal ts
    .ok (one f (Number.ofDigits 8 cs), rest)
  | _ =>
    match simpleEscape? c, category? c with
    | some n, _ => .ok (one f n, ts)
    | _, some (negated, k) =>
      .ok (.char (.set false f.folding [.category negated f.ascii k]), ts)
    | _, _ =>
      if Number.isDigit c then byNumber else (need (readCode? c ts)).map fun p => (one f p.1, p.2)
where
  /-- Three octal digits are a code point; else the number is that of a group. -/
  byNumber : Read (Regex × List Token) :=
    match ts with
    | .plain d :: .plain e :: rest =>
      if isOctal c && isOctal d && isOctal e then
        let n := Number.ofDigits 8 [c, d, e]
        if n ≤ 0o377 then .ok (one f n, rest) else fail
      else if Number.isDigit d then toGroup [c, d] (.plain e :: rest)
      else toGroup [c] ts
    | .plain d :: rest => if Number.isDigit d then toGroup [c, d] rest else toGroup [c] ts
    | _ => toGroup [c] ts
  /-- A reference by number. -/
  toGroup (ds : List Char) (rest : List Token) : Read (Regex × List Token) :=
    (need (r.groups.reference? f (Number.ofDigits 10 ds))).map fun a => (a, rest)

/-! ### Repetitions -/

/-- The numbers that repetitions stay below. -/
def repetitionLimit : Nat := 4294967295

/-- Reads the inside of braces: least and most number of rounds. Braces with anything else in them
are plain characters. -/
def readBraces? (ts : List Token) : Option ((List Char × List Char) × List Token) :=
  let (low, rest) := takePlain ts.length Number.isDigit ts
  match rest with
  | .plain ',' :: more =>
    let (high, rest) := takePlain more.length Number.isDigit more
    match rest with
    | .plain '\x7d' :: rest => some ((low, high), rest)
    | _ => none
  | .plain '\x7d' :: more => if low.isEmpty then none else some ((low, low), more)
  | _ => none

/-- The bounds of a repetition from its digits. -/
def bounds (low high : List Char) : Read (Nat × Option Nat) :=
  let least := Number.ofDigits 10 low
  let most := Number.ofDigits 10 high
  if repetitionLimit ≤ least then .error .tooLarge
  else if high.isEmpty then .ok (least, none)
  else if repetitionLimit ≤ most then .error .tooLarge
  else if most < least then fail
  else .ok (least, some most)

/-- May an expression be repeated? Places cannot, nor can repetitions. -/
def mayRepeat : Regex → Bool
  | .anchor _ => false
  | .repeat .. => false
  | _ => true

/-- A sign behind a repetition tells how it chooses. -/
def readGreed : List Token → Greed × List Token
  | .plain '?' :: rest => (.lazy, rest)
  | .plain '+' :: rest => (.possessive, rest)
  | ts => (.greedy, ts)

/-! ### The expression -/

/-- Something read in a sequence. `grouped` tells that it stands in a group of its own, so that it
may be repeated whatever it is. -/
structure Part where
  regex : Regex
  grouped : Bool

/-- The sequence of some parts, given last part first. -/
def sequence (parts : List Part) : Regex :=
  parts.foldl (fun acc p => match acc with
    | .empty => p.regex
    | acc => .seq p.regex acc) .empty

/-- Repeats the part read last. -/
def repeatLast (parts : List Part) (least : Nat) (most : Option Nat) (ts : List Token) :
    Read (List Part × List Token) :=
  match parts with
  | p :: more =>
    if p.grouped || mayRepeat p.regex then
      let (greed, rest) := readGreed ts
      .ok (⟨.repeat greed least most p.regex, false⟩ :: more, rest)
    else fail
  | [] => fail

/-- Drops a comment in a verbose expression. -/
def skipComment : List Token → List Token
  | [] => []
  | .plain '\n' :: rest => rest
  | _ :: rest => skipComment rest

/-- Drops a comment in brackets. -/
def skipBracketComment : List Token → Option (List Token)
  | [] => none
  | .plain ')' :: rest => some rest
  | _ :: rest => skipBracketComment rest

/-- Blanks that a verbose expression does not count. -/
def isIgnored (c : Char) : Bool := c == ' ' || (0x9 ≤ c.toNat && c.toNat ≤ 0xD)

/-- What a reading function gives: an expression, the tokens behind it, and the state. -/
abbrev Reads := Read (Regex × List Token × Reading)

/-- The closing bracket of a group. -/
def readClose : List Token → Read (List Token)
  | .plain ')' :: rest => .ok rest
  | _ => fail

/-- The number that stands in place of a group's name: digits of any script with single low lines
between them, in front of which a plus may stand, and around it blanks. -/
def groupNumber? (name : List Char) : Option Nat :=
  let digits := match Text.commonForm name with
    | '+' :: rest => rest
    | cs => cs
  let parts := digits.splitOn '_'
  if parts.any fun part => part.isEmpty || !part.all Number.isDigit then none
  else if Number.writtenDigits < parts.flatten.length then none
  else some (Number.ofDigits 10 parts.flatten)

/-- The number of the group that a condition asks about. -/
def conditionGroup (g : Groups) (name : List Char) : Read Nat :=
  if isGroupName name then need (g.names.lookup (String.ofList name))
  else
    match groupNumber? name with
    | some 0 => fail
    | some n => .ok n
    | none => fail

mutual

/-- Reads alternatives up to a closing bracket or the end. -/
def readAlternatives : Nat → Reading → Flags → (nested first : Bool) → List Token → Reads
  | 0, _, _, _, _, _ => fail
  | fuel + 1, r, f, nested, first, ts => do
    let (a, rest, r) ← readSequence fuel r f (!nested && first) [] ts
    match rest with
    | .plain '|' :: more =>
      let f := if nested then f else r.flags
      let (b, rest, r) ← readAlternatives fuel r f nested false more
      return (.alt a b, rest, r)
    | _ => return (a, rest, r)

/-- Reads a sequence; `parts` holds what was read of it, last first. Flags for the whole expression
may stand only where `first` says so and nothing was read yet. -/
def readSequence : Nat → Reading → Flags → (first : Bool) → List Part → List Token → Reads
  | 0, _, _, _, _, _ => fail
  | fuel + 1, r, f, first, parts, ts =>
    match ts with
    | [] => return (sequence parts, [], r)
    | .escaped c :: rest => do
      let (a, rest) ← readEscape r f c rest
      readSequence fuel r f first (⟨a, false⟩ :: parts) rest
    | .plain c :: rest =>
      if c = '|' ∨ c = ')' then return (sequence parts, ts, r)
      else if f.verbose && isIgnored c then readSequence fuel r f first parts rest
      else if f.verbose && c == '#' then readSequence fuel r f first parts (skipComment rest)
      else match c with
        | '[' => do
          let (negated, rest) := match rest with
            | .plain '^' :: more => (true, more)
            | _ => (false, rest)
          let (items, rest) ← need (readSet? f (rest.length + 1) [] rest)
          readSequence fuel r f first (⟨.char (.set negated f.folding items), false⟩ :: parts) rest
        | '?' => do
          let (parts, rest) ← repeatLast parts 0 (some 1) rest
          readSequence fuel r f first parts rest
        | '*' => do
          let (parts, rest) ← repeatLast parts 0 none rest
          readSequence fuel r f first parts rest
        | '+' => do
          let (parts, rest) ← repeatLast parts 1 none rest
          readSequence fuel r f first parts rest
        | '\x7b' =>
          match readBraces? rest with
          | none => readSequence fuel r f first (⟨one f 0x7B, false⟩ :: parts) rest
          | some ((low, high), rest) => do
            let (least, most) ← bounds low high
            let (parts, rest) ← repeatLast parts least most rest
            readSequence fuel r f first parts rest
        | '.' =>
          let test := if f.dotAll then CharTest.any else .notLineEnd
          readSequence fuel r f first (⟨.char test, false⟩ :: parts) rest
        | '^' =>
          let a := if f.multiline then Anchor.lineStart else .textStart
          readSequence fuel r f first (⟨.anchor a, false⟩ :: parts) rest
        | '$' =>
          let a := if f.multiline then Anchor.lineEnd else .lastLineEnd
          readSequence fuel r f first (⟨.anchor a, false⟩ :: parts) rest
        | '(' => readGroup fuel r f first parts rest
        | _ => readSequence fuel r f first (⟨one f c.toNat, false⟩ :: parts) rest

/-- Reads what stands behind an opening bracket, and then the rest of the sequence. -/
def readGroup : Nat → Reading → Flags → (first : Bool) → List Part → List Token → Reads
  | 0, _, _, _, _, _ => fail
  | fuel + 1, r, f, first, parts, ts =>
    match ts with
    | .plain '?' :: .plain 'P' :: .plain '<' :: rest => do
      let (name, rest) ← need (takeName? '>' rest)
      let s := String.ofList name
      if !isGroupName name || (r.groups.names.lookup s).isSome then fail
      readCapture fuel r f first parts (some s) rest
    | .plain '?' :: .plain 'P' :: .plain '=' :: rest => do
      let (name, rest) ← need (takeName? ')' rest)
      if !isGroupName name then fail
      let n ← need (r.groups.names.lookup (String.ofList name))
      let a ← need (r.groups.reference? f n)
      readSequence fuel r f first (⟨a, false⟩ :: parts) rest
    | .plain '?' :: .plain '#' :: rest => do
      readSequence fuel r f first parts (← need (skipBracketComment rest))
    | .plain '?' :: .plain '=' :: rest => readLook fuel r f first parts true false rest
    | .plain '?' :: .plain '!' :: rest => readLook fuel r f first parts true true rest
    | .plain '?' :: .plain '<' :: .plain '=' :: rest =>
      readLook fuel r f first parts false false rest
    | .plain '?' :: .plain '<' :: .plain '!' :: rest =>
      readLook fuel r f first parts false true rest
    | .plain '?' :: .plain '(' :: rest => do
      let (name, rest) ← need (takeName? ')' rest)
      let n ← conditionGroup r.groups name
      if !r.groups.mayRefer n then fail
      let r := { r with groups := { r.groups with asked := max n r.groups.asked } }
      let (yes, rest, r) ← readSequence fuel r f false [] rest
      match rest with
      | .plain '|' :: rest =>
        let (no, rest, r) ← readSequence fuel r f false [] rest
        let rest ← readClose rest
        readSequence fuel r f first (⟨.ifGroup n yes no, false⟩ :: parts) rest
      | _ =>
        let rest ← readClose rest
        readSequence fuel r f first (⟨.ifGroup n yes .empty, false⟩ :: parts) rest
    | .plain '?' :: .plain ':' :: rest => readPlainGroup fuel r f f first parts id rest
    | .plain '?' :: .plain '>' :: rest => readPlainGroup fuel r f f first parts .atomic rest
    | .plain '?' :: .plain c :: rest => do
      if c != '-' && (Flags.ofLetter? c).isNone then fail
      match ← need (readFlags? c rest) with
      | (.whole on, rest) =>
        if !first || !parts.isEmpty then fail
        let r := { r with flags := r.flags.union on }
        readSequence fuel r r.flags first parts rest
      | (.inGroup on off, rest) =>
        readPlainGroup fuel r f (f.change on off) first parts id rest
    | .plain '?' :: _ => fail
    | _ => readCapture fuel r f first parts none ts

/-- Reads a group that is remembered. -/
def readCapture : Nat → Reading → Flags → (first : Bool) → List Part → Option String →
    List Token → Reads
  | 0, _, _, _, _, _, _ => fail
  | fuel + 1, r, f, first, parts, name, ts => do
    let n := r.groups.opened + 1
    let names := match name with
      | some s => (s, n) :: r.groups.names
      | none => r.groups.names
    let r := { r with groups := { r.groups with opened := n, names := names } }
    let (body, rest, r) ← readAlternatives fuel r f true false ts
    let rest ← readClose rest
    let r := { r with groups := { r.groups with widths := (n, body.width) :: r.groups.widths } }
    readSequence fuel r f first (⟨.group n body, true⟩ :: parts) rest

/-- Reads a group that is not remembered, under flags of its own. -/
def readPlainGroup : Nat → Reading → Flags → Flags → (first : Bool) → List Part →
    (Regex → Regex) → List Token → Reads
  | 0, _, _, _, _, _, _, _ => fail
  | fuel + 1, r, outer, inner, first, parts, wrap, ts => do
    let (body, rest, r) ← readAlternatives fuel r inner true false ts
    let rest ← readClose rest
    readSequence fuel r outer first (⟨wrap body, true⟩ :: parts) rest

/-- Reads a look to one side. What a look-behind matches has a single width. -/
def readLook : Nat → Reading → Flags → (first : Bool) → List Part → (ahead negated : Bool) →
    List Token → Reads
  | 0, _, _, _, _, _, _, _ => fail
  | fuel + 1, r, f, first, parts, ahead, negated, ts => do
    let limit := r.groups.limit
    let inner := if ahead then limit else limit.orElse fun _ => some r.groups.opened
    let inside := { r with groups := { r.groups with limit := inner } }
    let (body, rest, r) ← readAlternatives fuel inside f true false ts
    let r := { r with groups := { r.groups with limit := limit } }
    let rest ← readClose rest
    if !ahead && !body.width.isFixed then fail
    readSequence fuel r f first (⟨.look ahead negated body, false⟩ :: parts) rest

end

/-- Reads a regular expression. -/
def parse (s : String) : Except Fault Regex := do
  let ts ← need (tokens? s.toList)
  let (a, rest, r) ← readAlternatives (4 * ts.length + 8) ⟨.empty, {}⟩ {} false true ts
  if r.flags.ascii && r.flags.full then .error .flags
  if !rest.isEmpty then fail
  if r.groups.opened < r.groups.asked then fail
  return a

end PinLedger.Regex

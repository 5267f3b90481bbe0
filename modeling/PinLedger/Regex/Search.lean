/-
# Searching

A search goes through the text from left to right and, at each place, through the ways of the
expression in order: of a choice the left side first, of a repetition one more round or going on
first, as it asks. The first way to the end counts. What comes after a part of the expression is
handed to it as a function, so that it can be tried for every way of the part.

Key definitions: `Regex.State`, `Regex.run`, `Regex.matchesIn`.
-/
import PinLedger.Regex.Basic

namespace PinLedger.Regex

/-- Where a match stands: the place in the text, and what the groups have matched. -/
structure State where
  place : Nat
  groups : List (Nat × Nat × Nat)

/-- What comes after a part of an expression. -/
abbrev Rest := State → Option State

/-- Is the character at a place part of a word? -/
def isWordAt (ascii : Bool) (text : Array Char) (place : Nat) : Bool :=
  match text[place]? with
  | some c => Category.word.has ascii c
  | none => false

/-- Does an anchor hold at a place? -/
def Anchor.holds (text : Array Char) (place : Nat) : Anchor → Bool
  | .textStart => place == 0
  | .lineStart => place == 0 || text[place - 1]? == some '\n'
  | .textEnd => place == text.size
  | .lastLineEnd =>
    place == text.size || (place + 1 == text.size && text[place]? == some '\n')
  | .lineEnd => place == text.size || text[place]? == some '\n'
  | .wordEdge negated ascii =>
    let before := place != 0 && isWordAt ascii text (place - 1)
    text.size != 0 && (before != isWordAt ascii text place) != negated

/-- Does the text go on with what stands between two places? -/
def repeats (f : Folding) (text : Array Char) (first last place : Nat) : Bool :=
  (List.range (last - first)).all fun i =>
    match text[first + i]?, text[place + i]? with
    | some c, some d => f.base c == f.base d
    | _, _ => false

/-- The rounds of a repetition. `bound` bounds how many are left; `lastPlace` is where the last
optional round began, and a round that got no further is the last. -/
def rounds (greed : Greed) (least : Nat) (most : Option Nat) (body : State → Rest → Option State)
    (rest : Rest) : (bound count : Nat) → (lastPlace : Option Nat) → State → Option State
  | 0, _, _, s => rest s
  | bound + 1, count, lastPlace, s =>
    if count < least then body s (rounds greed least most body rest bound (count + 1) lastPlace)
    else
      let mayGoOn := (match most with
        | some m => decide (count < m)
        | none => true) && lastPlace != some s.place
      let oneMore := rounds greed least most body rest bound (count + 1) (some s.place)
      match greed with
      | .greedy =>
        if mayGoOn then
          match body s oneMore with
          | some found => some found
          | none => rest s
        else rest s
      | .lazy =>
        match rest s with
        | some found => some found
        | none => if mayGoOn then body s oneMore else none
      | .possessive => rest s

/-- The rounds of a repetition with no way back: as many as possible, each by its first way. -/
def allRounds (least : Nat) (most : Option Nat) (body : State → Rest → Option State) :
    (bound count : Nat) → (lastPlace : Option Nat) → State → Option State
  | 0, _, _, s => some s
  | bound + 1, count, lastPlace, s =>
    if count < least then
      (body s some).bind (allRounds least most body bound (count + 1) lastPlace)
    else
      let mayGoOn := (match most with
        | some m => decide (count < m)
        | none => true) && lastPlace != some s.place
      if mayGoOn then
        match body s some with
        | some t => allRounds least most body bound (count + 1) (some s.place) t
        | none => some s
      else some s

/-- Matches an expression from a state on, and then what comes after it. -/
def run (text : Array Char) : Regex → State → Rest → Option State
  | .empty, s, rest => rest s
  | .char test, s, rest =>
    match text[s.place]? with
    | some c => if test.holds c then rest { s with place := s.place + 1 } else none
    | none => none
  | .seq a b, s, rest => run text a s fun t => run text b t rest
  | .alt a b, s, rest =>
    match run text a s rest with
    | some found => some found
    | none => run text b s rest
  | .repeat greed least most body, s, rest =>
    let bound := least + 2 * (text.size + 2)
    match greed with
    | .possessive => (allRounds least most (run text body) bound 0 none s).bind rest
    | _ => rounds greed least most (run text body) rest bound 0 none s
  | .group number body, s, rest =>
    run text body s fun t =>
      rest { t with groups := (number, s.place, t.place) :: t.groups }
  | .atomic body, s, rest => (run text body s some).bind rest
  | .look ahead negated body, s, rest =>
    let start : Option State :=
      if ahead then some s
      else if body.width.least ≤ s.place then
        some { s with place := s.place - body.width.least }
      else none
    let found := start.bind fun t => run text body t some
    match found, negated with
    | some t, false => rest { t with place := s.place }
    | none, true => rest s
    | _, _ => none
  | .anchor a, s, rest => if a.holds text s.place then rest s else none
  | .back number f _ _, s, rest =>
    match s.groups.lookup number with
    | some (first, last) =>
      if repeats f text first last s.place then rest { s with place := s.place + (last - first) }
      else none
    | none => none
  | .ifGroup number yes no, s, rest =>
    if (s.groups.lookup number).isSome then run text yes s rest else run text no s rest

/-- Does the expression match somewhere in a text? -/
def matchesIn (r : Regex) (s : String) : Bool :=
  let text := s.toList.toArray
  (List.range (text.size + 1)).any fun place => (run text r ⟨place, []⟩ some).isSome

end PinLedger.Regex

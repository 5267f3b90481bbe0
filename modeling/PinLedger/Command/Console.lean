/-
# Lines on a console

A console has room for so many cells in a line. A text is broken into lines that have room: between
words where that is possible, else between characters. Blanks stay where they are, as far as there
is room for them. A note stands in two columns, its level and its text.

Key definitions: `words`, `breakLine`, `consoleLines`, `noteLines`.
-/
import PinLedger.Table.Layout
import PinLedger.Trail

namespace PinLedger.Command

open Text (isBlank)

/-! ### Words -/

/-- The words of characters that go on from a word. It has `begun` if it is more than blanks, and
`ended` if blanks stand behind these. -/
def wordsFrom (word : List Char) (begun ended : Bool) : List Char → List (List Char)
  | [] => if begun then [word] else []
  | c :: cs =>
    if isBlank c then wordsFrom (word ++ [c]) begun begun cs
    else if ended then word :: wordsFrom [c] true false cs
    else wordsFrom (word ++ [c]) true false cs

/-- The words of a line with the blanks behind them, the first also with the blanks in front of it.
A line of blanks has no words. -/
def words (cs : List Char) : List (List Char) := wordsFrom [] false false cs

/-- A word without the blanks behind it. -/
def bareWord (cs : List Char) : List Char := (cs.reverse.dropWhile isBlank).reverse

/-! ### Breaking lines -/

/-- The pieces of a word that goes on from a piece, none of them wider than the console. -/
def piecesFrom (columns : Nat) (piece : List Char) (size : Nat) :
    List Text.Cluster → List (List Char)
  | [] => [piece]
  | k :: ks =>
    if columns < size + k.width then piece :: piecesFrom columns k.chars k.width ks
    else piecesFrom columns (piece ++ k.chars) (size + k.width) ks

/-- The pieces of a word. -/
def pieces (columns : Nat) (word : List Char) : List (List Char) :=
  piecesFrom columns [] 0 (Text.clusters word)

/-- The lines of words that go on from a line that takes `place` cells. It is the first line of all
as long as nothing has `started`. A word that is too wide for any line begins a line of its own and
leaves its last piece for the words behind it. -/
def linesFrom (columns : Nat) (started : Bool) (line : List Char) (place : Nat) :
    List (List Char) → List (List Char)
  | [] => [line]
  | word :: rest =>
    let size := Text.width (bareWord word)
    if place + size ≤ columns then
      linesFrom columns true (line ++ word) (place + Text.width word) rest
    else if size ≤ columns then line :: linesFrom columns true word (Text.width word) rest
    else
      let chopped := pieces columns word
      let lines := if started then line :: chopped else chopped.dropWhile List.isEmpty
      let last := lines.getLastD []
      lines.dropLast ++ linesFrom columns true last (Text.width last) rest

/-- Breaks a line. -/
def breakLine (columns : Nat) (cs : List Char) : List (List Char) :=
  match words cs with
  | [] => [cs]
  | ws => linesFrom columns false [] 0 ws

/-- A line that fits a console: blanks at its end give way first. -/
def fitted (columns : Nat) (cs : List Char) : List Char :=
  let cs := dropExcessBlanks columns cs
  if columns < Text.width cs then Text.cutToWidth columns cs else cs

/-- The lines of a text on a console; nothing is shown where there is no room at all. -/
def consoleLines (columns : Nat) (s : String) : List (List Char) :=
  if columns = 0 then []
  else (Text.splitAt '\n' (dropControls s).toList).flatMap fun line =>
    (breakLine columns (expandTabs 0 (Text.splitAt '\t' line))).map (fitted columns)

/-- The lines of a text on a console, as texts. -/
def shownLines (columns : Nat) (s : String) : List String :=
  (consoleLines columns s).map String.ofList

/-! ### Notes -/

/-- The width of the column for the level of a note. -/
def levelWidth : Nat := 8

/-- Fills a line up with blanks. -/
def filled (columns : Nat) (cs : List Char) : List Char :=
  cs ++ List.replicate (columns - Text.width cs) ' '

/-- What stands in front of the lines of a note: its level, then blanks. -/
def noteMargins (n : LogRecord) : Nat → List Char
  | 0 => filled (levelWidth + 1) n.level.word.toList
  | _ + 1 => List.replicate (levelWidth + 1) ' '

/-- The lines of a note, whose text stands in a column of its own. -/
def noteLines (columns : Nat) (n : LogRecord) : List String :=
  let room := columns - (levelWidth + 1)
  (consoleLines room n.message).mapIdx fun i cs =>
    String.ofList (noteMargins n i ++ filled room cs)

/-- The lines of a trail: of its warnings, or of all notes. -/
def trailLines (columns : Nat) (verbose : Bool) (trail : Trail) : List String :=
  (trail.filter fun n => verbose || n.level == .warning).flatMap (noteLines columns)

end PinLedger.Command

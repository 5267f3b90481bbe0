/-
# Emoji by name

A name between two colons stands for an emoji, if it is the name of one. A name may end in `-text`
or `-emoji` to ask for a plain or a coloured form.

Key definitions: `emoji?`, `replaceEmoji`.
-/
import PinLedger.Number.Decimal
import PinLedger.Text.Blank
import PinLedger.Text.EmojiTable
import PinLedger.Text.Lower
import PinLedger.Text.Split

namespace PinLedger.Text

/-- The code points of an emoji as they are written in the table. -/
def emojiOfCodes (codes : List Char) : List Char :=
  (splitAt '+' codes).map fun ds => Char.ofNat (Number.ofDigits 16 ds)

/-- The emoji of a name in one part of the table. -/
def emojiIn? (name : List Char) (part : String) : Option (List Char) :=
  (part.toList.splitOnP fun c => c == ' ' || c == '\n').findSome? fun entry =>
    match cutFirst? ':' entry with
    | some (n, codes) => if n = name then some (emojiOfCodes codes) else none
    | none => none

/-- The emoji of a name. -/
def emoji? (name : List Char) : Option (List Char) := emojiNames.findSome? (emojiIn? name)

/-- A name and the sign for the form that it asks for. -/
def splitForm (name : List Char) : List Char × List Char :=
  match dropEnd? "-text".toList name, dropEnd? "-emoji".toList name with
  | some n, _ => (n, ['\uFE0E'])
  | none, some n => (n, ['\uFE0F'])
  | none, none => (name, [])

/-- The name between a colon and the next one, no blank among it. -/
def emojiName? (cs : List Char) : Option (List Char) :=
  match cs with
  | ':' :: rest =>
    let name := rest.takeWhile fun c => c != ':' && !isBlank c
    if (rest.drop name.length).head? = some ':' then some name else none
  | _ => none

/-- What stands for a name between colons: its emoji, or the name as it is written. -/
def emojiOrName (name : List Char) : List Char :=
  let (base, form) := splitForm name
  match emoji? (lower (String.ofList base)).toList with
  | some emoji => emoji ++ form
  | none => ':' :: name ++ [':']

/-- Puts emoji for names between colons; `skip` characters are passed over first. -/
def replaceEmojiFrom : (skip : Nat) → List Char → List Char
  | _, [] => []
  | n + 1, _ :: cs => replaceEmojiFrom n cs
  | 0, c :: cs =>
    match emojiName? (c :: cs) with
    | some name => emojiOrName name ++ replaceEmojiFrom (name.length + 1) cs
    | none => c :: replaceEmojiFrom 0 cs

/-- Puts emoji for names between colons. -/
def replaceEmoji (cs : List Char) : List Char := replaceEmojiFrom 0 cs

end PinLedger.Text

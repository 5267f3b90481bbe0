/-
# A YAML text as a file gives it

A file is met little by little: its octets are decoded in chunks, and its characters are handed on
in blocks. What is wrong with the file counts only once the block that has it is met, so a fault in
the text before it is found first.

Key definitions: `Fault`, `Source`, `Source.ofOctets`.
-/
import PinLedger.Document.Checked

namespace PinLedger.Yaml

open Document

/-- Why a text is no document. -/
inductive Fault where
  /-- It is not well-formed, or has a tag or key that no value can have. -/
  | malformed
  /-- Its octets are no text. -/
  | encoding
  /-- A number or stamp is out of range. -/
  | outOfRange
  /-- A number does not fit a double or the number of a character. -/
  | tooLarge
  /-- A word is no truth value. -/
  | unknownWord
  /-- A number has no characters. -/
  | noDigits
  /-- A text has not the form of a stamp. -/
  | noStamp
  /-- A table is to be read as a stamp. -/
  | noText
deriving DecidableEq, Repr

/-- A character that may stand in a YAML text. -/
def isPrintable (c : Char) : Bool :=
  let n := c.toNat
  n == 0x9 || n == 0xA || n == 0xD || (0x20 ≤ n && n ≤ 0x7E) || n == 0x85
    || (0xA0 ≤ n && n ≤ 0xD7FF) || (0xE000 ≤ n && n ≤ 0xFFFD) || 0x10000 ≤ n

/-- A text as far as it can be read, and the fault that reading on ends in, if it does. -/
structure Source where
  chars : List Char
  fault : Option Fault
deriving Repr

namespace Source

/-! ### Blocks of characters -/

/-- The number of characters that are asked for at once. -/
def blockLength : Nat := 4096

/-- A text that is handed on in blocks, the first of the given length. A block counts only as a
whole, so a character that may not stand in a text takes its block with it. Behind the last block
comes `last`. -/
def ofBlocks (last : Option Fault) : Nat → (length : Nat) → List Char → Source
  | 0, _, _ => ⟨[], last⟩
  | fuel + 1, length, cs =>
    if cs.isEmpty then ⟨[], last⟩
    else
      let block := cs.take length
      if block.all isPrintable then
        let more := ofBlocks last fuel blockLength (cs.drop length)
        ⟨block ++ more.chars, more.fault⟩
      else ⟨[], some .malformed⟩

/-- A text from its beginning: two blocks are met before anything else happens. -/
def ofChars (last : Option Fault) (cs : List Char) : Source :=
  ofBlocks last (cs.length + 1) (2 * blockLength) cs

/-- Every way to end a line counts as a line feed. -/
def unifyLineEnds : List Char → List Char
  | '\r' :: '\n' :: rest => '\n' :: unifyLineEnds rest
  | '\r' :: rest => '\n' :: unifyLineEnds rest
  | c :: rest => c :: unifyLineEnds rest
  | [] => []

/-! ### Octets that are no text -/

/-- The least number of octets that are decoded at once. -/
def chunkLength : Nat := 8192

/-- May a character begin with some octets? The least or the greatest octets behind them would
complete one. Half of a pair, which is no character, is found out at its third octet only. -/
def beginsChar (octets : List UInt8) : Bool :=
  match octets with
  | [0xED, second] => 0x80 ≤ second && second ≤ 0xBF
  | _ => [0x80, 0xBF].any fun more => [1, 2, 3].any fun n =>
    (decodeUtf8? (octets ++ List.replicate n more)).isSome

/-- Decodes a chunk, with the octets of a character that it does not complete. -/
def decodeChunk? (octets : List UInt8) : Option (String × List UInt8) :=
  [0, 1, 2, 3].findSome? fun n =>
    let kept := octets.length - n
    let held := octets.drop kept
    if n = 0 || beginsChar held then (decodeUtf8? (octets.take kept)).map (·, held) else none

/-- Decodes octets that are no text, chunk by chunk, up to the chunk that shows this. `held` are
octets of a character that is not complete, `returned` tells whether a carriage return is held back,
as a line feed may follow, and `count` is the number of characters that were decoded. A chunk is as
long as the chunk before it suggests for the characters that its block still lacks. -/
def decodedFront : Nat → (octets held : List UInt8) → (returned : Bool) → (count length : Nat) →
    List Char
  | 0, _, _, _, _, _ => []
  | fuel + 1, octets, held, returned, count, length =>
    let chunk := octets.take length
    match decodeChunk? (held ++ chunk) with
    | none => []
    | some (s, held) =>
      if chunk.isEmpty then []
      else
        let cs := if returned && !s.isEmpty then '\r' :: s.toList else s.toList
        let returned := if cs.isEmpty then returned else cs.getLast? == some '\r'
        let cs := unifyLineEnds (if returned then cs.dropLast else cs)
        let count := count + cs.length
        let suggested := chunk.length * (blockLength - count % blockLength) / cs.length
        cs ++ decodedFront fuel (octets.drop length) held returned count (max chunkLength suggested)

/-- The characters that are handed on of octets that are no text: the blocks that are complete
before the chunk that shows it. -/
def handedOn (octets : List UInt8) : List Char :=
  let cs := decodedFront (octets.length + 1) octets [] false 0 chunkLength
  if cs.length < 2 * blockLength then [] else cs.take (cs.length / blockLength * blockLength)

/-- The text that octets are met as. -/
def ofOctets (octets : List UInt8) : Source :=
  match decodeUtf8? octets with
  | some s => ofChars none (unifyLineEnds s.toList)
  | none => ofChars (some .encoding) (handedOn octets)

end Source

end PinLedger.Yaml

/-
# Name patterns

A pattern is a regular expression that is searched for in a name. Without a pattern every name is
kept.

Key definitions: `compilePattern`.
-/
import PinLedger.Failure
import PinLedger.Regex.Reader
import PinLedger.Regex.Search

namespace PinLedger

/-- The failure that a text which is no regular expression ends in. -/
def patternFailure (text : String) : Regex.Fault → Failure
  | .malformed => .diagnosed (.regexInvalid text)
  | .tooLarge => .breakdown .tooLarge
  | .flags => .breakdown .outOfRange

/-- The test on names that a pattern stands for. -/
def compilePattern : Option String → Except Failure (Option (String → Bool))
  | none => .ok none
  | some text =>
    match Regex.parse text with
    | .ok r => .ok (some r.matchesIn)
    | .error fault => .error (patternFailure text fault)

end PinLedger

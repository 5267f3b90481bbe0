/-
# Opening lock files

A lock file is a YAML document of the shape of a lock document.

Key definitions: `LockFile.open`.
-/
import PinLedger.LockFile.Basic
import PinLedger.Yaml.Reader

namespace PinLedger.LockFile

open Document

/-- The breakdown that a fault of a text ends in. That the text is not well-formed is diagnosed
instead. -/
def breakdownOf? : Yaml.Fault → Option Breakdown
  | .malformed => none
  | .encoding => some .encoding
  | .outOfRange => some .outOfRange
  | .tooLarge => some .tooLarge
  | .unknownWord => some .noSuchKey
  | .noDigits => some .tooShort
  | .noStamp => some .noSuchPart
  | .noText => some .wrongType

/-- The failure that a text which is no YAML document ends in. -/
def textFailure (path : Path) (fault : Yaml.Fault) : Failure :=
  match breakdownOf? fault with
  | some b => .breakdown b
  | none => .diagnosed (.lockInvalid path.text .unreadable)

/-- The text of a file. -/
def textOf (content : Content) : Yaml.Source := .ofOctets content.toOctets

/-- The value that a file holds. -/
def valueOf (content : Content) : Except Yaml.Fault Value := Yaml.parse (textOf content)

/-- Reads the document of a lock file. -/
def readDocument (path : Path) (content : Content) : Except Failure LockDocument :=
  match valueOf content with
  | .error fault => .error (textFailure path fault)
  | .ok v =>
    match LockDocument.check v with
    | .ok document => .ok document
    | .error faults => .error (.diagnosed (.lockInvalid path.text (.shape faults)))

/-- Opens the lock file at a path. -/
def «open» (t : FileTree) (path : Path) : Traced LockFile := do
  if !(← Traced.ofAnswer (t.exists? path)) then
    Traced.diagnose (.lockMissing path.text)
  let content ← Traced.ofAnswer (t.read path)
  ofDocument path (← ofExcept (readDocument path content))

end PinLedger.LockFile

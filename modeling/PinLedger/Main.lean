/-
# The program

The program reads a snapshot of its surroundings, one line of JSON, from the standard input, and
runs a command line on it. Paths in the snapshot start at the top directory.

Key definition: `main`.
-/
import PinLedger.Command.Run
import PinLedger.Snapshot

namespace PinLedger

open Command

/-- How the program is used. -/
def usageText : String :=
  "usage: [-v] list [OPTIONS] [REGEX]\n"
    ++ "options: --platform PLATFORM, --json, --json-pretty, --sort-by size|name|kind,\n"
    ++ "  -e/--environment NAME, -x/--explicit, --frozen, --locked, --no-install,\n"
    ++ "  --manifest-path PATH"

/-- The consoles, where their widths are not known. -/
def defaultConsoles : Consoles := ⟨80, 80⟩

/-- Prints what a run leaves behind, and gives its exit code. -/
def report (outcome : Outcome) : IO UInt32 := do
  IO.print outcome.stdout
  for line in outcome.stderr do
    IO.eprintln line
  match outcome.ending with
  | .broken _ => IO.eprintln "Error: the files of the workspace have an unexpected form"
  | .exit 2 => IO.eprintln usageText
  | .exit _ => pure ()
  return UInt32.ofNat outcome.exit

end PinLedger

open PinLedger in
/-- Runs the program. -/
def main (arguments : List String) : IO UInt32 := do
  let line ← (← IO.getStdin).getLine
  match Json.parse? line with
  | none => do
    IO.eprintln "Error: the snapshot is no JSON"
    return 1
  | some snapshot =>
    let surroundings := Surroundings.ofJson ⟨.top, []⟩ [] snapshot
    report (Command.run surroundings defaultConsoles .ready arguments)

/-
# Arguments of a command

Arguments are options and positional arguments. A long option is `--name`, short ones are single
letters that may stand together behind one `-`. An option is a flag or takes a value: what stands
behind `=` or behind a short option's letter, else the next argument. Behind `--` all arguments are
positional.

Key definitions: `Spelling`, `Given`, `Arguments`, `Arguments.read?`.
-/
import PinLedger.Text.Split

namespace PinLedger.Command

/-- What an option's spelling stands for. -/
inductive Meaning where
  | flag (on : Bool)
  | value
deriving DecidableEq, Repr

/-- A way to write an option. -/
structure Spelling (α : Type) where
  text : String
  option : α
  meaning : Meaning

/-- An option as it is given. -/
inductive Given (α : Type) where
  | flag (option : α) (on : Bool)
  | value (option : α) (text : String)
deriving DecidableEq, Repr

/-- The arguments of a command. -/
structure Arguments (α : Type) where
  given : List (Given α)
  positional : List String

namespace Arguments

variable {α : Type}

/-- What one argument gives, and the option that the next argument is the value of. -/
structure Reading (α : Type) where
  given : List (Given α)
  pending : Option α

/-- The spelling of a text. -/
def spelling? (spellings : List (Spelling α)) (text : String) : Option (Spelling α) :=
  spellings.find? fun s => s.text == text

/-- Reads short options that stand together. -/
def readLetters? (spellings : List (Spelling α)) : List Char → Option (Reading α)
  | [] => some ⟨[], none⟩
  | c :: rest => do
    let s ← spelling? spellings (String.ofList ['-', c])
    match s.meaning, rest with
    | .flag on, _ =>
      let more ← readLetters? spellings rest
      some { more with given := .flag s.option on :: more.given }
    | .value, [] => some ⟨[], some s.option⟩
    | .value, _ => some ⟨[.value s.option (String.ofList rest)], none⟩

/-- Reads an argument whose spelling is known, with the text behind its `=`. -/
def readSpelled? (s : Spelling α) (text : Option String) : Option (Reading α) :=
  match s.meaning, text with
  | .flag on, none => some ⟨[.flag s.option on], none⟩
  | .flag _, some _ => none
  | .value, none => some ⟨[], some s.option⟩
  | .value, some t => some ⟨[.value s.option t], none⟩

/-- Reads an argument that begins with `-`. -/
def readOption? (spellings : List (Spelling α)) (argument : String) : Option (Reading α) :=
  let cs := argument.toList
  let (name, text) := match Text.cutFirst? '=' cs with
    | some (name, text) => (String.ofList name, some (String.ofList text))
    | none => (argument, none)
  match spellings.find? fun s => s.text == name && 2 < name.length with
  | some s => readSpelled? s text
  | none => if argument.startsWith "--" then none else readLetters? spellings (cs.drop 1)

/-- Is an argument an option? -/
def isOption (argument : String) : Bool := argument.startsWith "-" && 1 < argument.length

/-- Adds what was given in front. -/
def prepend (given : List (Given α)) (a : Arguments α) : Arguments α :=
  { a with given := given ++ a.given }

/-- Reads arguments, `none` if an option is unknown, lacks its value or has one it does not take.
`mixed` says that options may follow positional arguments. -/
def read? (spellings : List (Spelling α)) (mixed : Bool) : List String → Option (Arguments α)
  | [] => some ⟨[], []⟩
  | argument :: rest =>
    if argument = "--" then some ⟨[], rest⟩
    else if isOption argument then do
      let r ← readOption? spellings argument
      match r.pending with
      | none => prepend r.given <$> read? spellings mixed rest
      | some o =>
        match rest with
        | text :: more => prepend (r.given ++ [.value o text]) <$> read? spellings mixed more
        | [] => none
    else if mixed then
      (fun a => { a with positional := argument :: a.positional }) <$> read? spellings mixed rest
    else some ⟨[], argument :: rest⟩

variable [DecidableEq α]

/-- The flag that an option was last given as. -/
def flag? (a : Arguments α) (option : α) : Option Bool :=
  a.given.foldl (fun found g => match g with
    | .flag o on => if o = option then some on else found
    | .value .. => found) none

/-- The value that an option was last given. -/
def value? (a : Arguments α) (option : α) : Option String :=
  a.given.foldl (fun found g => match g with
    | .value o text => if o = option then some text else found
    | .flag .. => found) none

end Arguments

end PinLedger.Command

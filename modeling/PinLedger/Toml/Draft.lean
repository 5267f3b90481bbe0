/-
# A TOML document under construction

The tables of a document may be opened by headers, by dotted names and as inline values, in any
order, but none may be opened twice in the same way. A draft holds the tables made so far together
with the names that no longer may be opened: those whose value is complete, with all below them,
and those that a header or a dotted name has opened.

Key definitions: `Toml.Draft`, `Draft.openTable?`, `Draft.openItem?`, `Draft.set?`.
-/
import PinLedger.Document.Value

namespace PinLedger.Toml

open Document

/-- The way to a table: the names in a header or in front of `=`. -/
abbrev Key := List String

/-- The entries of a table. -/
abbrev Entries := List (Value × Value)

/-- The entry with a name. -/
def valueAt? (entries : Entries) (name : String) : Option Value :=
  (entries.find? fun e => e.1.sameKey (.text name)).map (·.2)

/-- Changes the table at the end of a way, making tables as needed. The way goes through the last
item of a list of tables if `throughLists` says so. -/
def changeAt? (throughLists : Bool) (change : Entries → Option Entries) :
    Key → Entries → Option Entries
  | [], entries => change entries
  | name :: names, entries =>
    match valueAt? entries name with
    | none =>
      (changeAt? throughLists change names []).map fun t => putEntry entries (.text name) (.table t)
    | some (.table inner) =>
      (changeAt? throughLists change names inner).map fun t =>
        putEntry entries (.text name) (.table t)
    | some (.list items) =>
      match throughLists, items.getLast? with
      | true, some (.table inner) =>
        (changeAt? throughLists change names inner).map fun t =>
          putEntry entries (.text name) (.list (items.dropLast ++ [.table t]))
      | _, _ => none
    | some _ => none

/-- Is the value a table or a list? -/
def isNest : Value → Bool
  | .table _ => true
  | .list _ => true
  | _ => false

/-- Adds an entry to a table that does not have its name yet. -/
def addNew? (name : String) (value : Value) (entries : Entries) : Option Entries :=
  if (valueAt? entries name).isSome then none else some (entries ++ [(.text name, value)])

/-- Adds an empty table to a list of tables. -/
def addItem? (name : String) (entries : Entries) : Option Entries :=
  match valueAt? entries name with
  | none => some (putEntry entries (.text name) (.list [.table []]))
  | some (.list items) => some (putEntry entries (.text name) (.list (items ++ [.table []])))
  | some _ => none

/-- A document under construction. -/
structure Draft where
  entries : Entries
  /-- Complete values, closed with all below them. -/
  complete : List Key
  /-- Tables that were opened. -/
  opened : List Key
  /-- Tables that dotted names have opened since the last header. -/
  dotted : List Key

namespace Draft

/-- An empty document. -/
def empty : Draft := ⟨[], [], [], []⟩

/-- Does the key lie in a complete value? -/
def isComplete (d : Draft) (key : Key) : Bool := d.complete.any fun k => k.isPrefixOf key

/-- Was the key opened before? -/
def isOpened (d : Draft) (key : Key) : Bool := d.opened.contains key

/-- Closes the tables that dotted names have opened. -/
def closeDotted (d : Draft) : Draft := { d with opened := d.dotted ++ d.opened, dotted := [] }

/-- Opens a table by a header. -/
def openTable? (d : Draft) (key : Key) : Option Draft :=
  let d := d.closeDotted
  if d.isOpened key || d.isComplete key then none
  else (changeAt? true some key d.entries).map fun es =>
    { d with entries := es, opened := key :: d.opened }

/-- Opens a new item of a list of tables by a header. What was known of the item before is
forgotten. -/
def openItem? (d : Draft) (key : Key) : Option Draft :=
  let d := d.closeDotted
  if d.isComplete key then none
  else
    (changeAt? true (addItem? (key.getLast?.getD "")) key.dropLast d.entries).map fun es =>
      { d with
        entries := es
        complete := d.complete.filter fun k => !key.isPrefixOf k
        opened := key :: d.opened.filter fun k => !key.isPrefixOf k }

/-- The tables that a dotted name passes through. -/
def passed (header key : Key) : List Key :=
  (List.range (key.length - 1)).map fun i => header ++ key.take (i + 1)

/-- Sets a value in the table of a header. -/
def set? (d : Draft) (header key : Key) (value : Value) : Option Draft :=
  let way := passed header key
  if way.any d.isOpened || d.isComplete (header ++ key.dropLast) then none
  else
    (changeAt? true (addNew? (key.getLast?.getD "") value) (header ++ key.dropLast) d.entries).map
      fun es =>
        { d with
          entries := es
          complete := if isNest value then (header ++ key) :: d.complete else d.complete
          dotted := way ++ d.dotted }

end Draft

end PinLedger.Toml

/-
# Asking values for their parts

A manifest is read part by part, and each part has to have the shape that the question expects. A
question that the type of a value does not know ends in `noSuchPart`; one that its type cannot
answer ends in `wrongType`.

Key definitions: `Value.ask`, `Value.entries`, `Value.members`, `Value.holds`, `Value.word`.
Key theorem: `Value.isPartOf_iff`.
-/
import PinLedger.Trail

namespace PinLedger.Document.Value

/-- The outcome of a question. -/
abbrev Asked := Except Breakdown

/-- The value of a name in a table, or the given value if the table lacks it. -/
def ask (v : Value) (name : String) (default : Value) : Asked Value :=
  match v with
  | .table _ => .ok ((v.get? name).getD default)
  | _ => .error .noSuchPart

/-- The entries of a table. -/
def entries : Value → Asked (List (Value × Value))
  | .table es => .ok es
  | _ => .error .noSuchPart

/-- The members of a value, one after the other: the keys of a table, the items of a list, the
characters of a text. -/
def members : Value → Asked (List Value)
  | .table es => .ok (es.map (·.1))
  | .list items => .ok items
  | .set items => .ok items
  | .text s => .ok (s.toList.map fun c => .text (String.singleton c))
  | .bytes octets => .ok (octets.map fun o => .int o.toNat)
  | _ => .error .wrongType

/-- Is the text part of another one? -/
def isPartOf (part : List Char) : List Char → Bool
  | [] => part.isEmpty
  | c :: cs => part.isPrefixOf (c :: cs) || isPartOf part cs

theorem isPartOf_iff {part cs : List Char} : isPartOf part cs = true ↔ part <:+: cs := by
  induction cs with
  | nil => simp [isPartOf]
  | cons c cs ih => simp [isPartOf, ih, List.infix_cons_iff]

/-- Does a value hold a name: as a key, as an item, or as a part of its text? -/
def holds (v : Value) (name : String) : Asked Bool :=
  match v with
  | .table _ => .ok (v.get? name).isSome
  | .list items => .ok (items.any fun i => i.sameKey (.text name))
  | .set items => .ok (items.any fun i => i.sameKey (.text name))
  | .text s => .ok (isPartOf name.toList s.toList)
  | _ => .error .wrongType

/-- The value of a name that is taken to be there. -/
def part (v : Value) (name : String) : Asked Value :=
  match v with
  | .table _ =>
    match v.get? name with
    | some found => .ok found
    | none => .error .noSuchKey
  | _ => .error .wrongType

/-- The text that a name is. -/
def word : Value → Asked String
  | .text s => .ok s
  | _ => .error .noSuchPart

/-- The first value if it counts as true, else the second. -/
def orElse (a b : Value) : Value := if a.truthy then a else b

end PinLedger.Document.Value

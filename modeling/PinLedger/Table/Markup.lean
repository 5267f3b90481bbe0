/-
# Marked-up text

A text may hold tags in square brackets, which style what they enclose and are not shown. A tag
begins with a small letter, `#`, `/` or `@`; other brackets are shown as they are, and a backslash
in front of a tag shows it. A tag that closes must have one to close, and tags are told apart by the
styles that they name. A tag with `@` names an action, whose arguments are literal values.

Key definitions: `Markup.pieces`, `Markup.Rendered`, `Markup.render`.
-/
import PinLedger.Table.Style
import PinLedger.Text.Emoji
import PinLedger.Text.Literal

namespace PinLedger.Markup

/-- A part of a marked-up text. -/
inductive Piece where
  | text (cs : List Char)
  | opening (name : List Char) (parameters : Option (List Char))
  | closing (name : List Char)
deriving DecidableEq, Repr

/-- A tag in a text, with the backslashes in front of it. -/
structure FoundTag where
  backslashes : Nat
  body : List Char
deriving DecidableEq, Repr

/-- How many characters a tag takes. -/
def FoundTag.length (t : FoundTag) : Nat := t.backslashes + t.body.length + 2

/-- A character that a tag may begin with. -/
def startsTag (c : Char) : Bool := ('a' ≤ c && c ≤ 'z') || c == '#' || c == '/' || c == '@'

/-- The tag in front of a text. -/
def tagAt? (cs : List Char) : Option FoundTag :=
  let backslashes := (cs.takeWhile (· == '\\')).length
  match cs.drop backslashes with
  | '[' :: c :: rest =>
    let more := rest.takeWhile fun d => d != '[' && d != ']'
    if startsTag c && (rest.drop more.length).head? == some ']' then some ⟨backslashes, c :: more⟩
    else none
  | _ => none

/-- The text of a piece, if there is any. -/
def ofText (cs : List Char) : List Piece := if cs.isEmpty then [] else [.text cs]

/-- What a tag's body stands for. -/
def ofBody (body : List Char) : Piece :=
  let name := body.takeWhile (· != '=')
  match name with
  | '/' :: closed => .closing (Text.trimBoth Text.isBlank closed)
  | _ => .opening name ((Text.cutFirst? '=' body).map (·.2))

/-- The pieces of a tag: two backslashes show one, and a single one left over shows the tag. -/
def FoundTag.pieces (t : FoundTag) : List Piece :=
  let shown := ofText (List.replicate (t.backslashes / 2) '\\')
  shown ++ if t.backslashes % 2 = 1 then [.text ('[' :: t.body ++ [']'])] else [ofBody t.body]

/-- The pieces of a text behind `pending`; `skip` characters are passed over first. -/
def piecesFrom : (skip : Nat) → (pending : List Char) → List Char → List Piece
  | _, pending, [] => ofText pending
  | n + 1, pending, _ :: cs => piecesFrom n pending cs
  | 0, pending, c :: cs =>
    match tagAt? (c :: cs) with
    | some t => ofText pending ++ t.pieces ++ piecesFrom (t.length - 1) [] cs
    | none => piecesFrom 0 (pending ++ [c]) cs

/-- The pieces of a marked-up text. -/
def pieces (s : String) : List Piece := piecesFrom 0 [] s.toList

/-- A backslash in front of a bracket is not shown. -/
def dropEscapes : List Char → List Char
  | '\\' :: '[' :: cs => '[' :: dropEscapes cs
  | c :: cs => c :: dropEscapes cs
  | [] => []

/-! ### Open tags -/

/-- Why a marked-up text cannot be shown. -/
inductive Fault where
  /-- A tag closes nothing, or the arguments of an action are no literal values. -/
  | broken
  /-- A colour has a part that is no number. -/
  | number
deriving DecidableEq, Repr

/-- A tag that was opened: the style that its name stands for, and what stands behind the name. -/
structure OpenTag where
  style : String
  parameters : Option (List Char)
deriving DecidableEq, Repr, Inhabited

/-- The style that a name stands for. -/
def styleOf (name : List Char) : Except Fault String :=
  (Style.normalize (String.ofList name)).mapError fun _ => .number

namespace OpenTag

/-- The style of what a tag encloses. -/
def fullStyle (t : OpenTag) : String :=
  match t.parameters with
  | none => t.style
  | some parameters => t.style ++ " " ++ String.ofList parameters

/-- Does a tag name an action? -/
def isAction (t : OpenTag) : Bool := t.style.toList.head? == some '@'

/-- What is read as the arguments of an action: what stands in the parentheses behind its name, or
all of it. -/
def arguments (parameters : List Char) : List Char :=
  let cs := Text.trimBoth Text.isBlank parameters
  match cs.dropWhile fun c => Text.wordSet.has c || c == '.' with
  | [] => ['(', ')']
  | '(' :: rest =>
    if rest.getLast? == some ')' && !rest.dropLast.contains '\n' then '(' :: rest else cs
  | _ => cs

/-- Is an action well-formed? -/
def isInOrder (t : OpenTag) : Bool :=
  match t.parameters with
  | none | some [] => true
  | some parameters => Literal.isLiteral (arguments parameters)

end OpenTag

/-- Closes a tag: the last open one, or the last one of a style. Result: the style of what it
encloses, if it is no action, and the tags that are open still. -/
def close (name : List Char) (stack : List OpenTag) :
    Except Fault (Option String × List OpenTag) := do
  let isMeant : OpenTag → Bool ←
    if name.isEmpty then pure fun _ => true
    else do
      let style ← styleOf name
      pure fun t => t.style == style
  match stack.find? isMeant with
  | none => throw .broken
  | some t =>
    let stack := stack.eraseP isMeant
    if !t.isAction then return (some t.fullStyle, stack)
    else if t.isInOrder then return (none, stack)
    else throw .broken

/-! ### What is shown -/

/-- What a marked-up text shows, and the styles of its stretches. -/
structure Rendered where
  text : List Char
  styles : List String
deriving DecidableEq, Repr, Inhabited

/-- Puts a text in front. -/
def Rendered.behind (r : Rendered) (cs : List Char) : Rendered := ⟨cs ++ r.text, r.styles⟩

/-- Adds a style, if there is one. -/
def Rendered.styled (r : Rendered) (style : Option String) : Rendered :=
  ⟨r.text, style.toList ++ r.styles⟩

/-- What pieces show while some tags are open. -/
def renderFrom (stack : List OpenTag) : List Piece → Except Fault Rendered
  | [] => .ok ⟨[], stack.map OpenTag.fullStyle⟩
  | .text cs :: rest => do
    let shown ← renderFrom stack rest
    return shown.behind (Text.replaceEmoji (dropEscapes cs))
  | .opening name parameters :: rest => do
    let style ← styleOf name
    renderFrom (⟨style, parameters⟩ :: stack) rest
  | .closing name :: rest => do
    let (style, stack) ← close name stack
    let shown ← renderFrom stack rest
    return shown.styled style

/-- What a marked-up text shows. -/
def render (s : String) : Except Fault Rendered := renderFrom [] (pieces s)

end PinLedger.Markup

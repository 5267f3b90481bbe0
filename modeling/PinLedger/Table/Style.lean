/-
# Styles by name

A style is a name of the theme, or a list of words: attributes, `not` before an attribute that is
taken away, a colour, `on` before a colour of the ground, and `link` before an address. A colour has
a name, or is given as `#rrggbb`, as `color(n)` with its number, or as `rgb(r,g,b)`.

Key definitions: `readColour`, `Definition`, `read`, `normalize`, `isStyle`, `breaks`.
-/
import PinLedger.Number.Decimal
import PinLedger.Text.Blank
import PinLedger.Text.Lower
import PinLedger.Text.Split
import PinLedger.Text.WordTable

namespace PinLedger.Style

/-- The names in a text. -/
def namesOf (s : String) : List String :=
  ((s.toList.splitOnP fun c => c == ' ' || c == '\n').map String.ofList).filter (· != "")

/-- The attributes, in the order in which a style is written. -/
def attributes : List String :=
  ["bold", "dim", "italic", "underline", "blink", "blink2", "reverse", "conceal", "strike",
    "underline2", "frame", "encircle", "overline"]

/-- Short names of attributes. -/
def shortNames : List (String × String) :=
  [("b", "bold"), ("d", "dim"), ("i", "italic"), ("u", "underline"), ("uu", "underline2"),
    ("r", "reverse"), ("c", "conceal"), ("s", "strike"), ("o", "overline")]

/-- The attribute that a word names. -/
def attribute? (word : String) : Option String :=
  if attributes.contains word then some word else shortNames.lookup word

/-- The names of colours. -/
def colours : List String := namesOf "
aquamarine1 aquamarine3 black blue blue1 blue3 blue_violet bright_black bright_blue
bright_cyan bright_green bright_magenta bright_red bright_white bright_yellow cadet_blue
chartreuse1 chartreuse2 chartreuse3 chartreuse4 cornflower_blue cornsilk1 cyan cyan1 cyan2
cyan3 dark_blue dark_cyan dark_goldenrod dark_green dark_khaki dark_magenta dark_olive_green1
dark_olive_green2 dark_olive_green3 dark_orange dark_orange3 dark_red dark_sea_green
dark_sea_green1 dark_sea_green2 dark_sea_green3 dark_sea_green4 dark_slate_gray1
dark_slate_gray2 dark_slate_gray3 dark_turquoise dark_violet deep_pink1 deep_pink2 deep_pink3
deep_pink4 deep_sky_blue1 deep_sky_blue2 deep_sky_blue3 deep_sky_blue4 default dodger_blue1
dodger_blue2 dodger_blue3 gold1 gold3 gray0 gray100 gray11 gray15 gray19 gray23 gray27 gray3
gray30 gray35 gray37 gray39 gray42 gray46 gray50 gray53 gray54 gray58 gray62 gray63 gray66
gray69 gray7 gray70 gray74 gray78 gray82 gray84 gray85 gray89 gray93 green green1 green3
green4 green_yellow grey0 grey100 grey11 grey15 grey19 grey23 grey27 grey3 grey30 grey35
grey37 grey39 grey42 grey46 grey50 grey53 grey54 grey58 grey62 grey63 grey66 grey69 grey7
grey70 grey74 grey78 grey82 grey84 grey85 grey89 grey93 honeydew2 hot_pink hot_pink2 hot_pink3
indian_red indian_red1 khaki1 khaki3 light_coral light_cyan1 light_cyan3 light_goldenrod1
light_goldenrod2 light_goldenrod3 light_green light_pink1 light_pink3 light_pink4
light_salmon1 light_salmon3 light_sea_green light_sky_blue1 light_sky_blue3 light_slate_blue
light_slate_gray light_slate_grey light_steel_blue light_steel_blue1 light_steel_blue3
light_yellow3 magenta magenta1 magenta2 magenta3 medium_orchid medium_orchid1 medium_orchid3
medium_purple medium_purple1 medium_purple2 medium_purple3 medium_purple4 medium_spring_green
medium_turquoise medium_violet_red misty_rose1 misty_rose3 navajo_white1 navajo_white3
navy_blue orange1 orange3 orange4 orange_red1 orchid orchid1 orchid2 pale_green1 pale_green3
pale_turquoise1 pale_turquoise4 pale_violet_red1 pink1 pink3 plum1 plum2 plum3 plum4 purple
purple3 purple4 red red1 red3 rosy_brown royal_blue1 salmon1 sandy_brown sea_green1 sea_green2
sea_green3 sky_blue1 sky_blue2 sky_blue3 slate_blue1 slate_blue3 spring_green1 spring_green2
spring_green3 spring_green4 steel_blue steel_blue1 steel_blue3 tan thistle1 thistle3
turquoise2 turquoise4 violet wheat1 wheat4 white yellow yellow1 yellow2 yellow3 yellow4"

/-- The names of the theme that are no style otherwise. -/
def themeNames : List String := namesOf "
bar.back bar.complete bar.finished bar.pulse bright code emphasize inspect.async_def
inspect.attr inspect.attr.dunder inspect.callable inspect.class inspect.def inspect.doc
inspect.equals inspect.error inspect.help inspect.value.border iso8601.date iso8601.time
iso8601.timezone json.bool_false json.bool_true json.brace json.key json.null json.number
json.str layout.tree.column layout.tree.row live.ellipsis log.level log.message log.path
log.time logging.keyword logging.level.critical logging.level.debug logging.level.error
logging.level.info logging.level.notset logging.level.warning markdown.block_quote
markdown.code markdown.code_block markdown.em markdown.emph markdown.h1 markdown.h1.border
markdown.h2 markdown.h3 markdown.h4 markdown.h5 markdown.h6 markdown.h7 markdown.hr
markdown.item markdown.item.bullet markdown.item.number markdown.link markdown.link_url
markdown.list markdown.paragraph markdown.s markdown.strong markdown.text pretty
progress.data.speed progress.description progress.download progress.elapsed progress.filesize
progress.filesize.total progress.percentage progress.remaining progress.spinner prompt
prompt.choices prompt.default prompt.invalid prompt.invalid.choice repr.attrib_equal
repr.attrib_name repr.attrib_value repr.bool_false repr.bool_true repr.brace repr.call
repr.comma repr.ellipsis repr.error repr.eui48 repr.eui64 repr.filename repr.indent repr.ipv4
repr.ipv6 repr.none repr.number repr.number_complex repr.path repr.str repr.tag_contents
repr.tag_end repr.tag_name repr.tag_start repr.url repr.uuid reset rule.line rule.text
scope.border scope.equals scope.key scope.key.special status.spinner strong table.caption
table.cell table.footer table.header table.title traceback.border
traceback.border.syntax_error traceback.error traceback.exc_type traceback.exc_value
traceback.offset traceback.text traceback.title tree tree.line"

/-- A number of one to three digits that is at most 255. -/
def isOctet (cs : List Char) : Bool :=
  !cs.isEmpty && cs.length ≤ 3 && cs.all Number.isDigit && Number.ofDigits 10 cs ≤ 255

/-- What stands between an opening text and a closing parenthesis. -/
def inside? (opening : String) (cs : List Char) : Option (List Char) := do
  let rest ← if opening.toList.isPrefixOf cs then some (cs.drop opening.length) else none
  Text.dropEnd? [')'] rest

/-- A digit of base sixteen in lower case. -/
def isHexDigit (c : Char) : Bool := Number.isDigit c || ('a' ≤ c && c ≤ 'f')

/-- Why a text is no style. -/
inductive Fault where
  /-- It is not well-formed. -/
  | malformed
  /-- A part of a colour is no number, or one with too many digits. -/
  | number
deriving DecidableEq, Repr

/-- A part of a colour: digits of any script. -/
def readPart (cs : List Char) : Except Fault Nat :=
  match cs.mapM Text.digitValue? with
  | none => .error .number
  | some digits =>
    if digits.isEmpty || Number.writtenDigits < digits.length then .error .number
    else .ok (digits.foldl (fun n d => n * 10 + d) 0)

/-- Checks the parts of a colour: three numbers up to 255 with commas between them. -/
def checkParts (body : List Char) : Except Fault Unit :=
  if body.isEmpty || body.any fun c => c != ',' && !Text.digitSet.has c then .error .malformed
  else match Text.splitAt ',' body with
  | [red, green, blue] => do
    let parts ← [red, green, blue].mapM readPart
    if parts.all (· ≤ 255) then .ok () else .error .malformed
  | _ => .error .malformed

/-- The name of the colour that a word stands for. -/
def readColour (word : String) : Except Fault String :=
  let word := Text.lower word
  let cs := word.toList
  if colours.contains word then .ok word
  else if cs.head? == some '#' && cs.length == 7 && (cs.drop 1).all isHexDigit then .ok word
  else match inside? "color(" cs with
  | some body => if isOctet body then .ok word else .error .malformed
  | none =>
    match inside? "rgb(" cs with
    | some body => (checkParts body).map fun _ => word
    | none => .error .malformed

/-- What a style asks for. -/
structure Definition where
  attributes : List (String × Bool) := []
  colour : Option String := none
  ground : Option String := none
  link : Option String := none
deriving DecidableEq, Repr

namespace Definition

/-- Puts an attribute on or takes it away. -/
def set (d : Definition) (name : String) (isOn : Bool) : Definition :=
  { d with attributes := (name, isOn) :: d.attributes }

/-- A style in words: its attributes in their order, its colours and its address. -/
def text (d : Definition) : String :=
  let attributes := Style.attributes.filterMap fun a =>
    (d.attributes.lookup a).map fun isOn => if isOn then a else "not " ++ a
  let words := attributes ++ d.colour.toList ++ (d.ground.map ("on " ++ ·)).toList
    ++ (d.link.map ("link " ++ ·)).toList
  if words.isEmpty then "none" else " ".intercalate words

end Definition

/-- Reads an attribute or a colour. -/
def readWord (d : Definition) (word : String) : Except Fault Definition :=
  match attribute? word with
  | some a => .ok (d.set a true)
  | none => (readColour word).map fun colour => { d with colour := some colour }

/-- Reads the words of a style behind those that were read into `d`. The words that want another one
behind them stand for nothing at the end. -/
def readWords (d : Definition) : List String → Except Fault Definition
  | [] => .ok d
  | [word] => readWord d (Text.lower word)
  | word :: next :: rest =>
    if Text.lower word = "on" then do
      let colour ← readColour next
      readWords { d with ground := some colour } rest
    else if Text.lower word = "not" then
      match attribute? next with
      | some a => readWords (d.set a false) rest
      | none => .error .malformed
    else if Text.lower word = "link" then readWords { d with link := some next } rest
    else do
      let d ← readWord d (Text.lower word)
      readWords d (next :: rest)

/-- The words of a text. -/
def words (s : String) : List String :=
  ((s.toList.splitOnP Text.isBlank).filter (!·.isEmpty)).map String.ofList

/-- Reads a style. An empty text is one, and so is `none`. -/
def read (s : String) : Except Fault Definition :=
  if s = "" || Text.strip s = "none" then .ok {} else readWords {} (words s)

/-- The name that a style is known by, which does not depend on how its words are ordered and
written. What is no style is its own name. -/
def normalize (s : String) : Except Fault String :=
  match read s with
  | .ok d => .ok d.text
  | .error .malformed => .ok (Text.lower (Text.strip s))
  | .error .number => .error .number

/-- Does a text name a style? -/
def isStyle (s : String) : Bool := themeNames.contains s || (read s).toOption.isSome

/-- Does looking a style up break down? What is no style does not. -/
def breaks (s : String) : Bool :=
  match read s with
  | .error .number => !themeNames.contains s
  | _ => false

end PinLedger.Style

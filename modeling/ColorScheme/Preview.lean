import ColorScheme.Scheme
import ColorScheme.Text.Width

/-!
Color schemes as samples for a terminal: the two colors of the page, then a row
for each token with its name, a sample of its style, and the style as text. The
names are filled up to the width of the widest. How wide a name is and how a text
is painted are up to the terminal.
-/

namespace ColorScheme.Preview

/-- What a sample can be besides colored. -/
inductive Attribute where
  | bold
  | italic
  | underlined
  | undercurled
  deriving DecidableEq

/-- How a sample looks. -/
structure Look where
  color : Option Color := none
  background : Option Color := none
  underline : Option Color := none
  attributes : List Attribute := []
  deriving DecidableEq

/-- What a preview is made for. -/
structure Terminal where
  /-- The columns that a text takes. -/
  width : Text → Nat
  /-- A text in a look, with what sets the look before it and ends it behind. -/
  paint : Look → Text → Text

variable (terminal : Terminal)

def swatch (c : Color) : Text :=
  terminal.paint { background := some c } "    ".toList

def Attribute.ofFace : Face → Attribute
  | .bold => bold
  | .italic => italic
  | .underline => underlined

/-- How a style looks in a scheme. A color that is not set is the root's, and a
border is a curled line. -/
def look (scheme : Scheme) (s : Style) : Look :=
  { color := s.color <|> (scheme.resolve .root).color
    background := some (s.background.getD scheme.background)
    underline := s.border
    attributes := s.faces.map .ofFace ++ (s.border.map fun _ => .undercurled).toList }

def sample : Text := " Sample text ".toList

/-- The row for a token, whose name is filled up to `columns`. -/
def row (columns : Nat) (scheme : Scheme) (t : Token) (s : Style) : Text :=
  t.shortName ++ List.replicate (columns - terminal.width t.shortName) ' ' ++ "  ".toList ++
    terminal.paint (look scheme s) sample ++ "  ".toList ++ s.text

def pageLine (scheme : Scheme) : Text :=
  "background ".toList ++ scheme.background.text ++ ' ' :: swatch terminal scheme.background ++
    "   highlight ".toList ++ scheme.highlight.text ++ ' ' :: swatch terminal scheme.highlight

def widest (widths : List Nat) : Nat :=
  widths.foldr max 0

/-- The preview of a scheme on a terminal. -/
def writeWith (scheme : Scheme) : Text :=
  let columns := widest (scheme.styles.keys.map fun t => terminal.width t.shortName)
  Text.ofLines (pageLine terminal scheme :: [] ::
    scheme.styles.entries.map fun (token, style) => row terminal columns scheme token style)

/-! ### Control sequences -/

/-- A control sequence that sets the look of what follows. -/
def escape (codes : Text) : Text :=
  '\x1b' :: '[' :: codes ++ ['m']

def rgb (c : Color) : Text :=
  "2;".toList ++ [';'].intercalate
    ([c.red, c.green, c.blue].map fun b => Nat.toDigits 10 b.toNat)

def Attribute.code : Attribute → Text
  | bold => "1".toList
  | italic => "3".toList
  | underlined => "4".toList
  | undercurled => "4:3".toList

/-- A text in a look, after which the terminal is as before. Attributes can only
be reset together with the colors. -/
def paint (look : Look) (s : Text) : Text :=
  (look.background.map fun c => escape ("48;".toList ++ rgb c)).toList.flatten ++
    (look.color.map fun c => escape ("38;".toList ++ rgb c)).toList.flatten ++
    (look.underline.map fun c => escape ("58;".toList ++ rgb c)).toList.flatten ++
    look.attributes.flatMap (fun a => escape a.code) ++ s ++
    (if look.attributes ≠ [] then escape "0".toList
      else
        (if look.background.isSome then escape "49".toList else []) ++
          (if look.color.isSome then escape "39".toList else []))

/-- A terminal with true colors. -/
def Terminal.trueColor : Terminal where
  width := Text.width
  paint := Preview.paint

def write (scheme : Scheme) : Text :=
  writeWith .trueColor scheme

end ColorScheme.Preview

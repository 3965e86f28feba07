import ColorScheme.Color
import ColorScheme.Text.Blank

/-!
The attributes that one token adds to its parent, and their written form: words
such as `bold`, `nobold`, `#ff0000` or `bg:#000`, obeyed from left to right. A
field that no word mentions is unset, which is not the same as switched off.
-/

namespace ColorScheme

/-- The attributes of type that are on, off or unset. -/
inductive Face where
  | bold
  | italic
  | underline
  deriving DecidableEq

namespace Face

def all : List Face := [bold, italic, underline]

def name : Face → Text
  | bold => "bold".toList
  | italic => "italic".toList
  | underline => "underline".toList

end Face

/-- Families of type, which are accepted and say nothing. -/
inductive Family where
  | roman
  | sans
  | mono
  deriving DecidableEq

namespace Family

def all : List Family := [roman, sans, mono]

def name : Family → Text
  | roman => "roman".toList
  | sans => "sans".toList
  | mono => "mono".toList

end Family

structure Style where
  /-- Whether the parent's style shows through. -/
  inherit : Bool := true
  bold : Option Bool := none
  italic : Option Bool := none
  underline : Option Bool := none
  color : Option Color := none
  background : Option Color := none
  border : Option Color := none
  deriving DecidableEq

/-- One word of a style. -/
inductive Directive where
  | noInherit
  | face (f : Face) (on : Bool)
  | family (f : Family)
  | color (c : Color)
  | background (c : Option Color)
  | border (c : Option Color)
  deriving DecidableEq

namespace Directive

def text : Directive → Text
  | noInherit => "noinherit".toList
  | face f true => f.name
  | face f false => "no".toList ++ f.name
  | family f => f.name
  | color c => c.text
  | background c => "bg:".toList ++ c.elim [] Color.text
  | border c => "border:".toList ++ c.elim [] Color.text

/-- The words that are no colors. -/
def plain : List Directive :=
  [noInherit] ++ Face.all.flatMap (fun f => [face f true, face f false]) ++
    Family.all.map family

/-- The directive of a word. A colored word is recognised by how it begins, and
then its color must be right. -/
def parse (word : Text) : Except Error Directive :=
  match plain.find? fun d => d.text = word with
  | some d => .ok d
  | none =>
      match Text.after? "bg:".toList word with
      | some literal => (Color.normalize (some literal)).map background
      | none =>
          match Text.after? "border:".toList word with
          | some literal => (Color.normalize (some literal)).map border
          | none =>
              if word.head? = some '#' then (Color.parse word).map color
              else .error (.unrecognisedDirective word)

end Directive

namespace Style

def empty : Style := {}

def isEmpty (s : Style) : Bool :=
  s = empty

def face (s : Style) : Face → Option Bool
  | .bold => s.bold
  | .italic => s.italic
  | .underline => s.underline

def setFace (s : Style) (f : Face) (v : Option Bool) : Style :=
  match f with
  | .bold => { s with bold := v }
  | .italic => { s with italic := v }
  | .underline => { s with underline := v }

def faces (s : Style) : List Face :=
  Face.all.filter fun f => s.face f = some true

def obey (s : Style) : Directive → Style
  | .noInherit => { s with inherit := false }
  | .face f on => s.setFace f (some on)
  | .family _ => s
  | .color c => { s with color := some c }
  | .background c => { s with background := c }
  | .border c => { s with border := c }

/-- The style after all words of a text, or the error of the first word that is
wrong. -/
def apply (s : Style) (words : Text) : Except Error Style :=
  (Text.words words).mapM Directive.parse |>.map fun ds => ds.foldl obey s

def parse (words : Text) : Except Error Style :=
  empty.apply words

/-- The directives that set exactly the fields that are set. -/
def directives (s : Style) : List Directive :=
  (if s.inherit then [] else [.noInherit]) ++
    (Face.all.filterMap fun f => (s.face f).map (.face f)) ++
    (s.color.map .color).toList ++
    (s.background.map fun c => .background (some c)).toList ++
    (s.border.map fun c => .border (some c)).toList

def text (s : Style) : Text :=
  [' '].intercalate (s.directives.map Directive.text)

/-- Sets the color from a literal; an empty one unsets it. -/
def setColor (s : Style) (literal : Text) : Except Error Style :=
  (Color.normalize (some literal)).map fun c => { s with color := c }

def setBackground (s : Style) (literal : Text) : Except Error Style :=
  (Color.normalize (some literal)).map fun c => { s with background := c }

def setBorder (s : Style) (literal : Text) : Except Error Style :=
  (Color.normalize (some literal)).map fun c => { s with border := c }

end Style
end ColorScheme

import ColorScheme.Document.Reader
import ColorScheme.Document.Value
import ColorScheme.Source

/-!
Definition files, the form in which schemes are kept and edited: a document with
a section for each token. Sections whose name begins with a lowercase letter are
no tokens; they hold values for others to refer to. The two colors of the page
are not part of a definition.
-/

namespace ColorScheme.Definition

/-- Whether a section is none of a token. -/
def isReserved (name : Text) : Bool :=
  name.head?.any Text.isLowercase

/-- The value of the option for the background, which has an older name too. -/
def backgroundLiteral (d : Document) (sec : Text) : Except Error (Option Text) := do
  match ← d.value sec "bgcolor".toList with
  | some literal => return some literal
  | none => d.value sec "background".toList

def readStyle (d : Document) (sec : Text) : Except Error Style := do
  let color ← Color.normalize (← d.value sec "color".toList)
  let background ← Color.normalize (← backgroundLiteral d sec)
  let border ← Color.normalize (← d.value sec "border".toList)
  let bold ← d.flag sec Face.bold.name
  let italic ← d.flag sec Face.italic.name
  let underline ← d.flag sec Face.underline.name
  let inherit := (← d.flag sec "inherit".toList).getD true
  return { inherit, bold, italic, underline, color, background, border }

def sectionToken (s : Section) : Except Error Token :=
  match Token.parse s.name with
  | .ok t => .ok t
  | .error _ => .error (.malformed s.line (.notAToken (Text.trim s.name)))

/-- Takes over the style of a section. Of two sections for one token the later
stands, whatever it sets. -/
def readSection (d : Document) (scheme : Scheme) (s : Section) : Except Error Scheme := do
  if isReserved s.name then return scheme
  let token ← sectionToken s
  return scheme.insert token (← readStyle d s.name)

def ofDocument (d : Document) : Except Error Scheme :=
  d.sections.foldlM (readSection d) {}

def read (text : Text) : Except Error Scheme := do
  ofDocument (← Document.ofText text)

def optionLine (key value : Text) : Text :=
  key ++ " = ".toList ++ value

def flagText : Bool → Text
  | true => "true".toList
  | false => "false".toList

/-- The lines for a style, one for each field that is set. -/
def styleLines (s : Style) : List Text :=
  (s.color.map fun c => optionLine "color".toList c.text).toList ++
    (s.background.map fun c => optionLine "bgcolor".toList c.text).toList ++
    (s.border.map fun c => optionLine "border".toList c.text).toList ++
    (Face.all.filterMap fun f => (s.face f).map fun on => optionLine f.name (flagText on)) ++
    (if s.inherit then [] else [optionLine "inherit".toList (flagText false)])

def sectionLines (t : Token) (s : Style) : List Text :=
  ('[' :: t.fullName ++ [']']) :: styleLines s

/-- The entries of a scheme in the order of their full names. -/
def sortedEntries (s : Scheme) : List (Token × Style) :=
  s.styles.entries.mergeSort fun a b => decide (a.1.fullName ≤ b.1.fullName)

/-- The definition file of a scheme, with an empty line between sections. -/
def write (s : Scheme) : Text :=
  Text.ofLines (List.intercalate [[]]
    ((sortedEntries s).map fun (token, style) => sectionLines token style))

end ColorScheme.Definition

import ColorScheme.Scheme

/-!
A scheme as other programs hold it: the colors as literals and the style of
each token as text. A source made from a scheme remembers it and gives it back
unread; any other source is read word by word.
-/

namespace ColorScheme

structure Source where
  background : Text := []
  highlight : Text := []
  styles : SortedTable Token Text := .empty
  /-- The scheme that the source was made from. -/
  origin : Option Scheme := none
  deriving DecidableEq

namespace Source

/-- The source with the given rows of token names and styles. Of two rows for
one token the later stands. -/
def ofRows (background highlight : Text) (rows : List (Text × Text)) : Except Error Source := do
  let entries ← rows.mapM fun (name, style) => do return (← Token.parse name, style)
  return { background, highlight, styles := .ofList entries }

/-- The scheme that a source describes. Literals that are empty leave the
default colors, and blank styles are passed over. -/
def toScheme (source : Source) : Except Error Scheme := do
  match source.origin with
  | some scheme => return scheme
  | none =>
      let background ← Color.normalize (some source.background)
      let highlight ← Color.normalize (some source.highlight)
      let page : Scheme :=
        { background := background.getD .white, highlight := highlight.getD .paleYellow }
      source.styles.entries.foldlM (fun scheme (token, style) => do
        if Text.trim style = [] then return scheme
        return scheme.insert token (← Style.parse style)) page

end Source

/-- The source that describes a scheme, and remembers it. -/
def Scheme.toSource (s : Scheme) : Source :=
  { background := s.background.text
    highlight := s.highlight.text
    styles := s.styles.map Style.text
    origin := some s }

end ColorScheme

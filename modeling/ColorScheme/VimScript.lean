import ColorScheme.Background
import ColorScheme.Printing
import ColorScheme.Scheme

/-!
Color schemes as scripts for the editor Vim. A table says which highlight groups
show which token; each group is set from the style in effect for its token, and
a group for which that style shows nothing is left alone.
-/

namespace ColorScheme.VimScript

/-- Tokens, by their short names, and the highlight groups that show them. -/
def groupNames : List (String × List String) := [
  ("Token", ["Normal"]),
  ("Comment", ["Comment"]),
  ("Comment.Preproc", ["PreProc", "Include", "Define", "Macro"]),
  ("Comment.Special", ["SpecialComment", "Todo"]),
  ("Keyword", ["Keyword", "Statement", "Conditional", "Repeat"]),
  ("Keyword.Constant", ["Boolean"]),
  ("Keyword.Declaration", ["StorageClass"]),
  ("Keyword.Type", ["Type", "Typedef"]),
  ("Name", ["Identifier", "Function", "Label"]),
  ("Name.Builtin", ["Special"]),
  ("Name.Class", ["Structure"]),
  ("Name.Constant", ["Constant"]),
  ("Name.Exception", ["Exception"]),
  ("Name.Tag", ["Tag"]),
  ("Number", ["Number"]),
  ("Number.Float", ["Float"]),
  ("String", ["String"]),
  ("String.Char", ["Character"]),
  ("String.Escape", ["SpecialChar"]),
  ("Operator", ["Operator"]),
  ("Punctuation", ["Delimiter"]),
  ("Error", ["Error"]),
  ("Generic.Deleted", ["DiffDelete"]),
  ("Generic.Inserted", ["DiffAdd"]),
  ("Generic.Heading", ["Title"]),
  ("Generic.Error", ["ErrorMsg"])]

/-- The table of tokens and groups. -/
def groups : List (Token × List Text) :=
  groupNames.filterMap fun (name, gs) =>
    (Token.parse name.toList).toOption.map fun t => (t, gs.map String.toList)

/-- How a character stands in a string of the script. -/
def escapeChar (c : Char) : Text :=
  if c = '\\' ∨ c = '"' then ['\\', c]
  else if c = '\n' then ['\\', 'n']
  else if c = '\r' then ['\\', 'r']
  else [c]

/-- A text as it stands between the quotes of a string, on one line. -/
def escape (s : Text) : Text :=
  s.flatMap escapeChar

/-- The values of the `gui` attribute: the faces that are on, and a curled line
for a border. -/
def guiFlags (s : Style) : List Text :=
  s.faces.map Face.name ++ (s.border.map fun _ => "undercurl".toList).toList

/-- The attributes that a style sets. -/
def attributes (s : Style) : List Text :=
  (s.color.map fun c => "guifg=".toList ++ c.text).toList ++
    (s.background.map fun c => "guibg=".toList ++ c.text).toList ++
    (s.border.map fun c => "guisp=".toList ++ c.text).toList ++
    (if guiFlags s = [] then [] else ["gui=".toList ++ [','].intercalate (guiFlags s)])

/-- The line that gives a group its attributes. -/
def highlightLine (group : Text) (attrs : List Text) : Text :=
  "hi ".toList ++ group ++ ' ' :: [' '].intercalate attrs

/-- The lines for one row of the table; none if the style shows nothing. -/
def groupLines (s : Scheme) (row : Token × List Text) : List Text :=
  let attrs := attributes (s.resolve row.1)
  if attrs = [] then []
  else ("\" ".toList ++ row.1.fullName) :: row.2.map (highlightLine · attrs) ++ [[]]

/-- The lines before the groups. -/
def header (name : Text) (background : Background) (s : Scheme) : List Text :=
  ["set background=".toList ++ (background.resolve s.background).name,
    "hi clear".toList,
    "if exists(\"syntax_on\")".toList,
    "    syntax reset".toList,
    "endif".toList,
    "let g:colors_name=\"".toList ++ escape name ++ ['"'],
    [],
    "hi Normal guibg=".toList ++ s.background.text,
    "hi CursorLine guibg=".toList ++ s.highlight.text,
    []]

/-- The script for a scheme under a name. -/
def write (name : Text) (background : Background) (s : Scheme) : Text :=
  Text.ofLines (header name background s ++ groups.flatMap (groupLines s))

/-- Prints the lines for one row of the table, whose token is read when its turn
comes. -/
def printRow (s : Scheme) (row : String × List String) : Printing Unit := do
  let token ← .ofExcept (Token.parse row.1.toList)
  .emitLines (groupLines s (token, row.2.map String.toList))

def print (name : Text) (background : Background) (s : Scheme) : Printing Unit := do
  .emitLines (header name background s)
  groupNames.forM (printRow s)

end ColorScheme.VimScript

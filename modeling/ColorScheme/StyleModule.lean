import ColorScheme.Source

/-!
Color schemes as Python modules for the highlighter Pygments: a class whose
table gives each token its style as text. A token is written as an attribute
path where its names allow, and else as a string to look up.
-/

namespace ColorScheme.StyleModule

def isAsciiDigit (c : Char) : Bool :=
  '0' ≤ c && c ≤ '9'

def isAsciiLetter (c : Char) : Bool :=
  ('a' ≤ c && c ≤ 'z') || ('A' ≤ c && c ≤ 'Z')

def isAsciiAlphanumeric (c : Char) : Bool :=
  isAsciiLetter c || isAsciiDigit c

/-- Whether a name can be written after a dot. -/
def isIdentifier : Text → Bool
  | [] => false
  | c :: s =>
      (isAsciiLetter c || c == '_') && s.all fun d => isAsciiAlphanumeric d || d == '_'

def isAttributePath (t : Token) : Bool :=
  t.segments.all isIdentifier

/-- A text as it stands between double quotes. -/
def escape (s : Text) : Text :=
  s.flatMap fun c => if c = '\\' ∨ c = '"' then ['\\', c] else [c]

def tokenExpression (t : Token) : Text :=
  if isAttributePath t then t.fullName
  else "string_to_tokentype(\"".toList ++ escape t.fullName ++ "\")".toList

/-- The words of a scheme name, each with a capital in front. -/
def capitalWords (name : Text) : List Text :=
  (name.splitOnP fun c => !isAsciiAlphanumeric c).filterMap fun
    | [] => none
    | c :: s => some (c.toUpper :: s)

/-- The name of the class, which is made of the words of the scheme name. A
name that a class cannot begin with gets a word in front. -/
def className (name : Text) : Text :=
  let stem := (capitalWords name).flatten
  (if stem.head?.all isAsciiDigit then "Generated".toList else []) ++ stem ++ "Style".toList

/-- The line of the table for a token. -/
def entryLine (t : Token) (style : Text) : Text :=
  "        ".toList ++ tokenExpression t ++ ": \"".toList ++ style ++ "\",".toList

/-- The lines before the table. The function that looks tokens up is imported
where some entry calls it. -/
def header (name : Text) (source : Source) : List Text :=
  ["# Generated by colorport".toList,
    "from pygments.style import Style".toList,
    "from pygments.token import Token".toList ++
      (if source.styles.keys.all isAttributePath then [] else ", string_to_tokentype".toList),
    [],
    [],
    "class ".toList ++ className name ++ "(Style):".toList,
    "    background_color = \"".toList ++ source.background ++ ['"'],
    "    highlight_color = \"".toList ++ source.highlight ++ ['"'],
    [],
    "    styles = \x7b".toList]

def write (name : Text) (s : Scheme) : Text :=
  let source := s.toSource
  Text.ofLines (header name source ++
    source.styles.entries.map (fun (token, style) => entryLine token style) ++
    ["    \x7d".toList])

end ColorScheme.StyleModule

import ColorScheme.Source

/-!
The styles that come with the program, as rows of token names and styles. They
are read like any other source.
-/

namespace ColorScheme

structure Builtin where
  name : Text
  background : Text
  highlight : Text
  rows : List (Text × Text)

namespace Builtin

/-- Rows given as strings. -/
def ofStrings (name background highlight : String) (rows : List (String × String)) : Builtin :=
  ⟨name.toList, background.toList, highlight.toList,
    rows.map fun (token, style) => (token.toList, style.toList)⟩

/-- A light style. -/
def plain : Builtin :=
  ofStrings "default" "#f8f8f8" "#ffffcc" [
    ("Whitespace", "#bbbbbb"), ("Comment", "italic #3D7B7B"),
    ("Comment.Preproc", "noitalic #9C6500"), ("Keyword", "bold #008000"),
    ("Keyword.Pseudo", "nobold"), ("Keyword.Type", "nobold #B00040"), ("Operator", "#666666"),
    ("Operator.Word", "bold #AA22FF"), ("Name.Builtin", "#008000"), ("Name.Function", "#0000FF"),
    ("Name.Class", "bold #0000FF"), ("Name.Namespace", "bold #0000FF"),
    ("Name.Exception", "bold #CB3F38"), ("Name.Variable", "#19177C"),
    ("Name.Constant", "#880000"), ("Name.Label", "#767600"), ("Name.Entity", "bold #717171"),
    ("Name.Attribute", "#687822"), ("Name.Tag", "bold #008000"), ("Name.Decorator", "#AA22FF"),
    ("String", "#BA2121"), ("String.Doc", "italic"), ("String.Interpol", "bold #A45A77"),
    ("String.Escape", "bold #AA5D1F"), ("String.Regex", "#A45A77"), ("String.Symbol", "#19177C"),
    ("String.Other", "#008000"), ("Number", "#666666"), ("Generic.Heading", "bold #000080"),
    ("Generic.Subheading", "bold #800080"), ("Generic.Deleted", "#A00000"),
    ("Generic.Inserted", "#008400"), ("Generic.Error", "#E40000"), ("Generic.Emph", "italic"),
    ("Generic.Strong", "bold"), ("Generic.Prompt", "bold #000080"),
    ("Generic.Output", "#717171"), ("Generic.Traceback", "#04D"), ("Error", "border:#FF0000")]

/-- A dark style. -/
def monokai : Builtin :=
  ofStrings "monokai" "#272822" "#49483e" [
    ("Token", "#f8f8f2"), ("Whitespace", ""), ("Error", "#ed007e bg:#1e0010"),
    ("Comment", "#959077"), ("Keyword", "#66d9ef"), ("Keyword.Namespace", "#ff4689"),
    ("Operator", "#ff4689"), ("Punctuation", "#f8f8f2"), ("Name", "#f8f8f2"),
    ("Name.Attribute", "#a6e22e"), ("Name.Class", "#a6e22e"), ("Name.Constant", "#66d9ef"),
    ("Name.Decorator", "#a6e22e"), ("Name.Exception", "#a6e22e"), ("Name.Function", "#a6e22e"),
    ("Name.Property", ""), ("Name.Tag", "#ff4689"), ("Number", "#ae81ff"),
    ("Literal", "#ae81ff"), ("Literal.Date", "#e6db74"), ("String", "#e6db74"),
    ("String.Escape", "#ae81ff"), ("Generic.Deleted", "#ff4689"), ("Generic.Emph", "italic"),
    ("Generic.Inserted", "#a6e22e"), ("Generic.Strong", "bold"),
    ("Generic.Subheading", "#959077")]

def all : List Builtin := [plain, monokai]

def names : List Text :=
  (all.map name).mergeSort fun a b => decide (a ≤ b)

def toSource (b : Builtin) : Except Error Source :=
  Source.ofRows b.background b.highlight b.rows

def find (name : Text) : Except Error Source :=
  match all.find? fun b => b.name = name with
  | some b => b.toSource
  | none => .error (.unknownStyle name)

end Builtin
end ColorScheme

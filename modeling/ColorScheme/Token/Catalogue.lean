import ColorScheme.Token

/-!
The token names that highlighters agree on.
-/

namespace ColorScheme.Token

def standardNames : List Text := List.map String.toList [
  "Token", "Text", "Whitespace", "Escape", "Error", "Other", "Keyword", "Keyword.Constant",
  "Keyword.Declaration", "Keyword.Namespace", "Keyword.Pseudo", "Keyword.Reserved",
  "Keyword.Type", "Name", "Name.Attribute", "Name.Builtin", "Name.Builtin.Pseudo", "Name.Class",
  "Name.Constant", "Name.Decorator", "Name.Entity", "Name.Exception", "Name.Function",
  "Name.Function.Magic", "Name.Property", "Name.Label", "Name.Namespace", "Name.Other",
  "Name.Tag", "Name.Variable", "Name.Variable.Class", "Name.Variable.Global",
  "Name.Variable.Instance", "Name.Variable.Magic", "Literal", "Literal.Date", "String",
  "String.Affix", "String.Backtick", "String.Char", "String.Delimiter", "String.Doc",
  "String.Double", "String.Escape", "String.Heredoc", "String.Interpol", "String.Other",
  "String.Regex", "String.Single", "String.Symbol", "Number", "Number.Bin", "Number.Float",
  "Number.Hex", "Number.Integer", "Number.Integer.Long", "Number.Oct", "Operator",
  "Operator.Word", "Punctuation", "Comment", "Comment.Hashbang", "Comment.Multiline",
  "Comment.Preproc", "Comment.PreprocFile", "Comment.Single", "Comment.Special", "Generic",
  "Generic.Deleted", "Generic.Emph", "Generic.Error", "Generic.Heading", "Generic.Inserted",
  "Generic.Output", "Generic.Prompt", "Generic.Strong", "Generic.Subheading",
  "Generic.Traceback"]

/-- Whether the short name of a token is in the catalogue. -/
def isStandard (t : Token) : Bool :=
  t.shortName ∈ standardNames

end ColorScheme.Token

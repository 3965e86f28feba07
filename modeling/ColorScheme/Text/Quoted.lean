import ColorScheme.Text.Graphic

/-!
A text in double quotes for a message: quotes, backslashes and line breaks are
escaped, and a character that would not show as itself is given by its number.
-/

namespace ColorScheme.Text

/-- How a character stands inside quotes. -/
def quotedChar (c : Char) : Text :=
  if c = '"' || c = '\\' then ['\\', c]
  else if c = '\n' then ['\\', 'n']
  else if c = '\r' then ['\\', 'r']
  else if c = '\t' then ['\\', 't']
  else if c.toNat = 0 then ['\\', '0']
  else if isGraphic c then [c]
  else ['\\', 'u', '{'] ++ Nat.toDigits 16 c.toNat ++ ['}']

/-- A text in double quotes. -/
def quoted (s : Text) : Text :=
  '"' :: s.flatMap quotedChar ++ ['"']

end ColorScheme.Text

import ColorScheme.Color

/-!
The strings, keys, comments and line ends of a settings file, which is written
in TOML. Each reader takes the text that begins with what it reads and gives the
rest after it.
-/

namespace ColorScheme.Settings

def isSpace (c : Char) : Bool :=
  c = ' ' || c = '\t'

def skipSpaces (s : Text) : Text :=
  s.dropWhile isSpace

/-- The text after a line end. -/
def lineEnd? : Text → Option Text
  | '\n' :: s => some s
  | '\r' :: '\n' :: s => some s
  | _ => none

/-- The text without a line end at its start. -/
def dropLineEnd (s : Text) : Text :=
  (lineEnd? s).getD s

/-- Tabs and all characters but the controls, which neither comments nor strings
may hold. -/
def isTextChar (c : Char) : Bool :=
  c = '\t' || (0x20 ≤ c.toNat && c.toNat ≠ 0x7F)

/-- The text without a comment at its start. -/
def dropComment : Text → Text
  | '#' :: s => s.dropWhile isTextChar
  | s => s

/-- The next line, after spaces and a comment at most. -/
def nextLine? (s : Text) : Option Text :=
  match dropComment (skipSpaces s) with
  | [] => some []
  | s => lineEnd? s

/-- The character that stands for itself or for a control after a backslash. -/
def escaped? : Char → Option Char
  | 'b' => some '\x08'
  | 't' => some '\t'
  | 'n' => some '\n'
  | 'f' => some '\x0c'
  | 'r' => some '\r'
  | '"' => some '"'
  | '\\' => some '\\'
  | _ => none

/-- The character with a number, if there is one. -/
def charOfCode? (n : Nat) : Option Char :=
  if n.isValidChar then some (Char.ofNat n) else none

/-- What the next character of a string with escapes belongs to. -/
inductive StringState where
  /-- The string, perhaps where white space is passed over. -/
  | body (skipping : Bool)
  /-- An escape whose backslash has been read. -/
  | escape
  /-- An escape that gives a character by its number. -/
  | code (digitsLeft : Nat) (value : Nat)
  /-- The rest of a line that ends in a backslash. -/
  | fold

/-- The digits of a character's number, after a backslash and this letter. -/
def codeDigits? : Char → Option Nat
  | 'u' => some 4
  | 'U' => some 8
  | _ => none

/-- The rest of a string on one line, up to its quote. -/
def basicString? : StringState → Text → Option (Text × Text)
  | .body _, '"' :: s => some ([], s)
  | .body _, '\\' :: s => basicString? .escape s
  | .body _, c :: s =>
      if isTextChar c then (basicString? (.body false) s).map fun (t, rest) => (c :: t, rest)
      else none
  | .escape, c :: s =>
      match codeDigits? c, escaped? c with
      | some n, _ => basicString? (.code n 0) s
      | none, some d => (basicString? (.body false) s).map fun (t, rest) => (d :: t, rest)
      | none, none => none
  | .code n value, c :: s =>
      match hexValue? c with
      | none => none
      | some d =>
          if n = 1 then
            match charOfCode? (16 * value + d) with
            | some c => (basicString? (.body false) s).map fun (t, rest) => (c :: t, rest)
            | none => none
          else basicString? (.code (n - 1) (16 * value + d)) s
  | .fold, _ :: _ => none
  | _, [] => none

/-- The rest of a string over several lines, up to its three quotes. One or two
quotes before them belong to the string. -/
def multilineString? : StringState → Text → Option (Text × Text)
  | .body _, '"' :: '"' :: '"' :: '"' :: '"' :: s => some (['"', '"'], s)
  | .body _, '"' :: '"' :: '"' :: '"' :: s => some (['"'], s)
  | .body _, '"' :: '"' :: '"' :: s => some ([], s)
  | .body _, '\\' :: s => multilineString? .escape s
  | .body skipping, '\r' :: '\n' :: s =>
      if skipping then multilineString? (.body true) s
      else (multilineString? (.body false) s).map fun (t, rest) => ('\n' :: t, rest)
  | .body skipping, c :: s =>
      if skipping && (isSpace c || c = '\n') then multilineString? (.body true) s
      else if isTextChar c || c = '\n' then
        (multilineString? (.body false) s).map fun (t, rest) => (c :: t, rest)
      else none
  | .escape, '\n' :: s => multilineString? (.body true) s
  | .escape, '\r' :: '\n' :: s => multilineString? (.body true) s
  | .escape, c :: s =>
      if isSpace c then multilineString? .fold s
      else
        match codeDigits? c, escaped? c with
        | some n, _ => multilineString? (.code n 0) s
        | none, some d =>
            (multilineString? (.body false) s).map fun (t, rest) => (d :: t, rest)
        | none, none => none
  | .code n value, c :: s =>
      match hexValue? c with
      | none => none
      | some d =>
          if n = 1 then
            match charOfCode? (16 * value + d) with
            | some c => (multilineString? (.body false) s).map fun (t, rest) => (c :: t, rest)
            | none => none
          else multilineString? (.code (n - 1) (16 * value + d)) s
  | .fold, '\n' :: s => multilineString? (.body true) s
  | .fold, '\r' :: '\n' :: s => multilineString? (.body true) s
  | .fold, c :: s => if isSpace c then multilineString? .fold s else none
  | _, [] => none

/-- The rest of a string without escapes, up to its apostrophe. -/
def literalString? : Text → Option (Text × Text)
  | [] => none
  | '\x27' :: s => some ([], s)
  | c :: s =>
      if isTextChar c then (literalString? s).map fun (t, rest) => (c :: t, rest) else none

/-- The rest of a string without escapes over several lines, up to its three
apostrophes. -/
def multilineLiteral? : Text → Option (Text × Text)
  | [] => none
  | '\x27' :: '\x27' :: '\x27' :: '\x27' :: '\x27' :: s => some (['\x27', '\x27'], s)
  | '\x27' :: '\x27' :: '\x27' :: '\x27' :: s => some (['\x27'], s)
  | '\x27' :: '\x27' :: '\x27' :: s => some ([], s)
  | '\r' :: '\n' :: s => (multilineLiteral? s).map fun (t, rest) => ('\n' :: t, rest)
  | c :: s =>
      if isTextChar c || c = '\n' then
        (multilineLiteral? s).map fun (t, rest) => (c :: t, rest)
      else none

/-- A string of any of the four kinds. -/
def string? : Text → Option (Text × Text)
  | '"' :: '"' :: '"' :: s => multilineString? (.body false) (dropLineEnd s)
  | '"' :: s => basicString? (.body false) s
  | '\x27' :: '\x27' :: '\x27' :: s => multilineLiteral? (dropLineEnd s)
  | '\x27' :: s => literalString? s
  | _ => none

/-- The characters of a key without quotes. -/
def isKeyChar (c : Char) : Bool :=
  c.isAlphanum || c = '-' || c = '_'

/-- One name of a key, which may be in quotes on one line. -/
def keyName? : Text → Option (Text × Text)
  | '"' :: s => basicString? (.body false) s
  | '\x27' :: s => literalString? s
  | s =>
      let name := s.takeWhile isKeyChar
      if name = [] then none else some (name, s.dropWhile isKeyChar)

/-- Names with dots between them, at most `bound` of them. -/
def keyWithin? : (bound : Nat) → Text → Option (List Text × Text)
  | 0, _ => none
  | bound + 1, s => do
      let (name, s) ← keyName? (skipSpaces s)
      match skipSpaces s with
      | '.' :: s =>
          let (names, s) ← keyWithin? bound s
          return (name :: names, s)
      | s => return ([name], s)

/-- A key with the spaces around it. -/
def key? (s : Text) : Option (List Text × Text) :=
  keyWithin? s.length s

end ColorScheme.Settings

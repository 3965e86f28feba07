import ColorScheme.Settings
import ColorScheme.Settings.Lexical
import ColorScheme.Settings.Tree

/-!
Reading settings. A file of settings has three keys, all of them optional, and
any other is an error, as is a value of the wrong kind. Only strings and tables
can be right, so other values are not told apart.
-/

namespace ColorScheme.Settings

/-- The text after white space, line ends and comments, of which there are at
most `bound`. -/
def skipLines : (bound : Nat) → Text → Text
  | 0, s => s
  | bound + 1, s =>
      match dropComment (skipSpaces s) with
      | [] => []
      | s =>
          match lineEnd? s with
          | some rest => skipLines bound rest
          | none => s

mutual

/-- A value, with at most `bound` values and keys in it. -/
def valueWithin? : (bound : Nat) → Text → Option (Node × Text)
  | 0, _ => none
  | bound + 1, s =>
      match s with
      | '[' :: s =>
          match skipLines s.length s with
          | ']' :: s => some (.emptyArray, s)
          | _ => none
      | '{' :: s =>
          match skipSpaces s with
          | '}' :: s => some (.inline [], s)
          | s => (pairsWithin? bound [] s).map fun (entries, s) => (.inline entries, s)
      | s => (string? s).map fun (value, s) => (.string value, s)

/-- The keys and values up to a closing brace. -/
def pairsWithin? : (bound : Nat) → Entries → Text → Option (Entries × Text)
  | 0, _, _ => none
  | bound + 1, entries, s => do
      let (names, s) ← key? s
      let '=' :: s := s | none
      let (node, s) ← valueWithin? bound (skipSpaces s)
      let entries ← entries.define names.dropLast (names.getLastD []) node
      match skipSpaces s with
      | ',' :: s => pairsWithin? bound entries s
      | '}' :: s => some (entries, s)
      | _ => none

end

/-- The tables read so far, and the path of the one that keys go to. -/
structure TableReader where
  entries : Entries := []
  path : List Text := []

namespace TableReader

/-- Opens a table; the bracket of its header has been read. -/
def header? (r : TableReader) (s : Text) : Option (TableReader × Text) := do
  let (names, s) ← key? s
  let ']' :: s := s | none
  let s ← nextLine? s
  return (⟨← r.entries.openTable names, names⟩, s)

def pair? (r : TableReader) (s : Text) : Option (TableReader × Text) := do
  let (names, s) ← key? s
  let '=' :: s := s | none
  let (node, s) ← valueWithin? (s.length + 1) (skipSpaces s)
  let s ← nextLine? s
  let entries ← r.entries.change r.path (·.define names.dropLast (names.getLastD []) node)
  return ({ r with entries }, s)

/-- Takes the rest of a file, of at most `bound` lines. -/
def read? : (bound : Nat) → TableReader → Text → Option Entries
  | 0, _, _ => none
  | bound + 1, r, s =>
      match skipSpaces s with
      | [] => some r.entries
      | '[' :: '[' :: _ => none
      | '[' :: s => do
          let (r, s) ← r.header? s
          r.read? bound s
      | s =>
          if s.head?.all fun c => c = '#' || c = '\n' || c = '\r' then do
            r.read? bound (← nextLine? s)
          else do
            let (r, s) ← r.pair? s
            r.read? bound s

end TableReader

/-- The text without a byte order mark at its start. -/
def dropByteOrderMark : Text → Text
  | '\ufeff' :: s => s
  | s => s

def entriesOfText? (text : Text) : Option Entries :=
  let s := dropByteOrderMark text
  TableReader.read? (s.length + 1) {} s

/-- Whether a value is a table or an array that holds nothing. -/
def isEmptyNode : Node → Bool
  | .string _ => false
  | .emptyArray => true
  | .inline entries | .table _ entries => entries.isEmpty

/-- The background mode that a value names: by a string, or by the one key of a
table, which holds nothing more. -/
def backgroundOfNode? : Node → Option Background
  | .string name => Background.ofName? name
  | .inline [(name, node)] | .table _ [(name, node)] =>
      if isEmptyNode node then Background.ofName? name else none
  | _ => none

/-- The settings with one entry of a file taken over. -/
def take? (settings : Settings) (entry : Text × Node) : Option Settings :=
  let (key, node) := entry
  if key = "scheme-name".toList then
    match node with
    | .string name => some { settings with schemeName := name }
    | _ => none
  else if key = "default-format".toList then
    match node with
    | .string name => some { settings with defaultFormat := name }
    | _ => none
  else if key = "background".toList then
    (backgroundOfNode? node).map fun b => { settings with background := b }
  else none

def ofText? (text : Text) : Option Settings :=
  (entriesOfText? text).bind fun entries => entries.foldlM take? {}

def ofText (text : Text) : Except Error Settings :=
  known (ofText? text)

def ofFile : File → Except Error Settings :=
  load ofText?

end ColorScheme.Settings

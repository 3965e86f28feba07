import ColorScheme.Text.Basic

/-!
Tables of settings and the rules on defining each of them once. A table can be
opened by a header, come about on the way to another table, or come about
through a dotted key; only the second kind can still be opened by a header, and
only the third can be extended by further dotted keys.
-/

namespace ColorScheme.Settings

/-- How a table has come about. -/
inductive TableKind where
  | opened
  | passed
  | dotted
  deriving DecidableEq

/-- A value, as far as settings can hold it. -/
inductive Node where
  | string (value : Text)
  | emptyArray
  | inline (entries : List (Text × Node))
  | table (kind : TableKind) (entries : List (Text × Node))

abbrev Entries := List (Text × Node)

namespace Entries

def replace (entries : Entries) (key : Text) (node : Node) : Entries :=
  entries.map fun e => if e.1 = key then (key, node) else e

/-- Defines a key below dotted names. -/
def define (entries : Entries) (names : List Text) (key : Text) (node : Node) :
    Option Entries :=
  match names with
  | [] => if (entries.lookup key).isSome then none else some (entries ++ [(key, node)])
  | name :: names =>
      match entries.lookup name with
      | none => do
          return entries ++ [(name, .table .dotted (← define [] names key node))]
      | some (.table kind inner) =>
          if kind = .opened ∨ (names = [] ∧ kind ≠ .dotted) then none
          else do return entries.replace name (.table kind (← define inner names key node))
      | some _ => none

/-- Opens the table of a header. -/
def openTable (entries : Entries) : (names : List Text) → Option Entries
  | [] => none
  | [name] =>
      match entries.lookup name with
      | none => some (entries ++ [(name, .table .opened [])])
      | some (.table .passed inner) => some (entries.replace name (.table .opened inner))
      | some _ => none
  | name :: names =>
      match entries.lookup name with
      | none => do
          return entries ++ [(name, .table .passed (← openTable [] names))]
      | some (.table kind inner) => do
          return entries.replace name (.table kind (← openTable inner names))
      | some _ => none

/-- Changes the entries of the table at a path. -/
def change (entries : Entries) (path : List Text) (f : Entries → Option Entries) :
    Option Entries :=
  match path with
  | [] => f entries
  | name :: path =>
      match entries.lookup name with
      | some (.table kind inner) => do
          return entries.replace name (.table kind (← change inner path f))
      | _ => none

end Entries
end ColorScheme.Settings

import ColorScheme.Error
import ColorScheme.Text.Blank

/-!
Tokens, the kinds of source text that a scheme colors. They form a hierarchy: a
token is the path of names from the root to it, and each initial part of the
path is an ancestor. Tokens are ordered by their paths.
-/

namespace ColorScheme

structure Token where
  segments : List Text
  deriving DecidableEq

namespace Token

def root : Token := ⟨[]⟩

def rootName : Text := "Token".toList

def isRoot (t : Token) : Bool :=
  t.segments.isEmpty

def child (t : Token) (name : Text) : Token :=
  ⟨t.segments ++ [name]⟩

def parent? (t : Token) : Option Token :=
  if t.isRoot then none else some ⟨t.segments.dropLast⟩

/-- The token itself, its parent, and so on up to the root. -/
def ancestors (t : Token) : List Token :=
  (List.range (t.segments.length + 1)).reverse.map fun n => ⟨t.segments.take n⟩

/-- The name with the root in front. -/
def fullName (t : Token) : Text :=
  rootName ++ t.segments.flatMap fun s => '.' :: s

/-- The name without the root, except for the root itself. -/
def shortName (t : Token) : Text :=
  if t.isRoot then rootName else ['.'].intercalate t.segments

/-- The token of a dotted path none of whose names is empty. -/
def ofPath? (path : Text) : Option Token :=
  let names := path.splitOn '.'
  if [] ∈ names then none else some ⟨names⟩

/-- The token of a name, which may be full or short. An empty name is the
root. -/
def parse (name : Text) : Except Error Token :=
  let name := Text.trim name
  if name = [] ∨ name = rootName then .ok root
  else
    match ofPath? ((Text.after? (rootName ++ ['.']) name).getD name) with
    | some t => .ok t
    | none => .error (.invalidToken name)

instance : LT Token := ⟨fun a b => a.segments < b.segments⟩

instance : LE Token := ⟨fun a b => ¬ b.segments < a.segments⟩

instance : DecidableLT Token := fun a b =>
  inferInstanceAs (Decidable (a.segments < b.segments))

instance : Std.IsLinearOrder Token where
  le_refl a := List.le_refl a.segments
  le_trans _ _ _ h k := @Std.le_trans (List Text) List.instLE _ _ _ _ h k
  le_antisymm a b h k := by
    cases a; cases b
    exact congrArg Token.mk (@Std.le_antisymm (List Text) List.instLE _ _ _ h k)
  le_total a b := List.le_total a.segments b.segments

instance : Std.LawfulOrderLT Token where
  lt_iff a b := @Std.LawfulOrderLT.lt_iff (List Text) _ List.instLE _ a.segments b.segments

end Token
end ColorScheme

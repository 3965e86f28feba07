import ColorScheme.SortedTable
import ColorScheme.Text.Lowercase

/-!
Documents of named sections with options. Section names are taken as they are;
option names are kept in lowercase and asked for in any case. Each section and
each option knows the line where it stands, for messages.
-/

namespace ColorScheme

/-- The value of an option as written, and the line where it begins. -/
structure RawValue where
  text : Text
  line : Nat
  deriving DecidableEq

structure Section where
  name : Text
  /-- The line of the first header with this name. -/
  line : Nat
  options : SortedTable Text RawValue := .empty
  deriving DecidableEq

/-- Sections in the order of their first headers. -/
structure Document where
  sections : List Section := []
  deriving DecidableEq

namespace Section

def get? (s : Section) (key : Text) : Option RawValue :=
  s.options.get? (Text.lowercase key)

/-- Sets an option, whose name is in lowercase. -/
def set (s : Section) (key : Text) (value : RawValue) : Section :=
  { s with options := s.options.insert key value }

def continueOption (s : Section) (key line : Text) : Section :=
  match s.options.get? key with
  | some value => s.set key { value with text := value.text ++ '\n' :: line }
  | none => s

end Section

namespace Document

def find? (d : Document) (name : Text) : Option Section :=
  d.sections.find? fun s => s.name = name

def raw? (d : Document) (sec key : Text) : Option RawValue :=
  (d.find? sec).bind (·.get? key)

/-- Makes sure that there is a section with a name. One that is there already
keeps its place and its line. -/
def addSection (d : Document) (name : Text) (line : Nat) : Document :=
  match d.find? name with
  | some _ => d
  | none => ⟨d.sections ++ [{ name, line }]⟩

def modify (d : Document) (name : Text) (f : Section → Section) : Document :=
  ⟨d.sections.map fun s => if s.name = name then f s else s⟩

end Document
end ColorScheme

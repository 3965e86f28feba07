import ColorScheme.Format
import ColorScheme.SortedTable

/-!
Formats by their names. No two have one name, and a format is asked for in any
case.
-/

namespace ColorScheme

structure Registry where
  formats : SortedTable Text Format := .empty

namespace Registry

/-- Adds a format, unless there is one with its name. -/
def add (r : Registry) (f : Format) : Except Error Registry :=
  match r.formats.get? f.name with
  | some earlier => .error (.duplicateFormat earlier.typeName f.typeName)
  | none => .ok ⟨r.formats.insert f.name f⟩

def ofList (formats : List Format) : Except Error Registry :=
  formats.foldlM add {}

def get? (r : Registry) (name : Text) : Option Format :=
  r.formats.get? (Text.lowercase name)

/-- The format with a name, which must be there. -/
def require (r : Registry) (name : Text) : Except Error Format :=
  match r.get? name with
  | some f => .ok f
  | none => .error (.unknownFormat name)

def names (r : Registry) : List Text :=
  r.formats.keys

def size (r : Registry) : Nat :=
  r.formats.size

def isEmpty (r : Registry) : Bool :=
  r.formats.isEmpty

def builtinWith (terminal : Preview.Terminal) (settings : Settings) : Except Error Registry :=
  ofList (Format.builtin terminal settings)

def builtin (settings : Settings) : Except Error Registry :=
  builtinWith .trueColor settings

end Registry
end ColorScheme

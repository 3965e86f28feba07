import ColorScheme.Color
import ColorScheme.Text.Lowercase

/-!
Whether an editor is told that its background is light or dark.
-/

namespace ColorScheme

/-- What an editor can be told. -/
inductive Shade where
  | light
  | dark
  deriving DecidableEq

def Shade.name : Shade → Text
  | light => "light".toList
  | dark => "dark".toList

/-- A fixed shade, or the one that fits the background color. -/
inductive Background where
  | auto
  | always (shade : Shade)
  deriving DecidableEq

namespace Background

def name : Background → Text
  | auto => "auto".toList
  | always shade => shade.name

def all : List Background := [auto, always .light, always .dark]

/-- The mode with exactly this name. -/
def ofName? (name : Text) : Option Background :=
  all.find? fun b => b.name = name

/-- The mode with this name in any case. -/
def parse (mode : Text) : Except Error Background :=
  match ofName? (Text.lowercase mode) with
  | some b => .ok b
  | none => .error (.unknownBackground mode)

/-- The shade for a scheme with this background color. -/
def resolve : Background → Color → Shade
  | always shade, _ => shade
  | auto, color => if color.isLight then .light else .dark

end Background
end ColorScheme

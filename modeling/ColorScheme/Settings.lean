import ColorScheme.Background
import ColorScheme.File

/-!
The settings of a run, their defaults, and where they come from.
-/

namespace ColorScheme

structure Settings where
  /-- The name written into schemes. -/
  schemeName : Text := "colorport".toList
  background : Background := .auto
  /-- The format to write where none is asked for. -/
  defaultFormat : Text := "vim".toList
  deriving DecidableEq

namespace Settings

/-- Settings that have been read, if they could be. -/
def known : Option Settings → Except Error Settings
  | some settings => .ok settings
  | none => .error .unreadableSettings

/-- The settings of a file, whose text is read by `parse?`; the defaults if there is
no file. -/
def load (parse? : Text → Option Settings) : File → Except Error Settings
  | .missing => .ok {}
  | file => file.text >>= fun text => known (parse? text)

end Settings
end ColorScheme

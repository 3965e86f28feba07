import ColorScheme.Definition
import ColorScheme.Preview
import ColorScheme.Settings
import ColorScheme.StyleModule
import ColorScheme.VimScript

/-!
Formats: a name to ask for one by, and what it can do. A format that cannot read
or cannot write says so when it is asked to; one that can write prints as it goes
along.
-/

namespace ColorScheme

/-- What stands before the first double colon. -/
def beforeColons : Text → Text
  | [] => []
  | ':' :: ':' :: _ => []
  | c :: s => c :: beforeColons s

/-- What stands after the last double colon of a path. -/
def lastOfPath (path : Text) : Text :=
  (beforeColons path.reverse).reverse

/-- The name of a format that is named for its type. -/
def canonicalName (typeName : Text) : Text :=
  Text.lowercase (lastOfPath typeName)

structure Format where
  /-- The name of the type behind the format, with its path. -/
  typeName : Text
  /-- The name to ask for the format by. -/
  name : Text := canonicalName typeName
  reader? : Option (Text → Except Error Scheme) := none
  printer? : Option (Scheme → Printing Unit) := none

namespace Format

def canRead (f : Format) : Bool :=
  f.reader?.isSome

def canWrite (f : Format) : Bool :=
  f.printer?.isSome

def read (f : Format) (text : Text) : Except Error Scheme :=
  match f.reader? with
  | some reader => reader text
  | none => .error (.unsupported f.name .read)

def print (f : Format) (s : Scheme) : Printing Unit :=
  match f.printer? with
  | some printer => printer s
  | none => .ofExcept (.error (.unsupported f.name .write))

def write (f : Format) (s : Scheme) : Except Error Text :=
  (f.print s).collect

def definition : Format where
  typeName := "colorport::format::definition::Definition".toList
  reader? := some Definition.read
  printer? := some fun s => .emit (Definition.write s)

def vimScript (schemeName : Text) (background : Background) : Format where
  typeName := "colorport::format::vim::Vim".toList
  printer? := some (VimScript.print schemeName background)

def styleModule (schemeName : Text) : Format where
  typeName := "colorport::format::pygments::Pygments".toList
  printer? := some fun s => .emit (StyleModule.write schemeName s)

def previewOn (terminal : Preview.Terminal) : Format where
  typeName := "colorport::format::preview::Preview".toList
  printer? := some fun s => .emit (Preview.writeWith terminal s)

def preview : Format :=
  previewOn .trueColor

/-- The formats that come with the program, with previews for a terminal. -/
def builtin (terminal : Preview.Terminal) (settings : Settings) : List Format :=
  [definition, vimScript settings.schemeName settings.background,
    styleModule settings.schemeName, previewOn terminal]

end Format
end ColorScheme

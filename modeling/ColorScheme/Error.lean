import ColorScheme.Text.Quoted

/-!
The ways a conversion can fail. Each error names its cause; the wording is in
`Error.message` alone.
-/

namespace ColorScheme

/-- Why a file could not be read. -/
inductive FileFault where
  | notUtf8
  | isDirectory
  | missing
  deriving DecidableEq

/-- What a format can be asked to do. -/
inductive Operation where
  | read
  | write
  deriving DecidableEq

/-- What is wrong at a line of a definition file. -/
inductive LineFault where
  | badHeader (line : Text)
  | optionOutsideSection
  | notAnOption (line : Text)
  | notABoolean (sec key value : Text)
  | nestedTooDeeply
  | unterminatedReference (value : Text)
  | unknownReference (reference : Text)
  | strayDollar (value : Text)
  | notAToken (name : Text)
  deriving DecidableEq

inductive Error where
  | file (fault : FileFault)
  | invalidColor (literal : Text)
  | unrecognisedDirective (word : Text)
  | invalidToken (name : Text)
  | duplicateFormat (first second : Text)
  | malformed (line : Nat) (fault : LineFault)
  | unsupported (format : Text) (operation : Operation)
  | unknownFormat (name : Text)
  | unknownStyle (name : Text)
  | unknownBackground (mode : Text)
  | unreadableSettings
  deriving DecidableEq

def FileFault.message : FileFault → Text
  | notUtf8 => "stream did not contain valid UTF-8".toList
  | isDirectory => "Is a directory (os error 21)".toList
  | missing => "No such file or directory (os error 2)".toList

def Operation.message : Operation → Text
  | read => "read".toList
  | write => "write".toList

/-- The wording for a name that is no token. -/
def invalidTokenMessage (name : Text) : Text :=
  "invalid token name: ".toList ++ Text.quoted name

def LineFault.message : LineFault → Text
  | badHeader line => "bad section header: ".toList ++ line
  | optionOutsideSection => "option defined before any section header".toList
  | notAnOption line => "expected key = value: ".toList ++ line
  | notABoolean sec key value =>
      '[' :: sec ++ "] ".toList ++ key ++ ": not a boolean: ".toList ++ value
  | nestedTooDeeply => "interpolation nested too deeply".toList
  | unterminatedReference value => "unterminated reference in ".toList ++ value
  | unknownReference reference =>
      "unknown reference $\x7b".toList ++ reference ++ "\x7d".toList
  | strayDollar value => "'$' must be followed by '$' or '\x7b': ".toList ++ value
  | notAToken name => invalidTokenMessage name

namespace Error

def message : Error → Text
  | file fault => "I/O error: ".toList ++ fault.message
  | invalidColor literal => "invalid color ".toList ++ literal
  | unrecognisedDirective word => "unrecognised style directive: ".toList ++ word
  | invalidToken name => invalidTokenMessage name
  | duplicateFormat first second =>
      "duplicate format: ".toList ++ first ++ " and ".toList ++ second
  | malformed line fault =>
      "malformed definition file (line ".toList ++ Nat.toDigits 10 line ++ "): ".toList ++
        fault.message
  | unsupported format operation =>
      "format ".toList ++ format ++ " does not support ".toList ++ operation.message
  | unknownFormat name => "unknown format: ".toList ++ name
  | unknownStyle name => "unknown style: ".toList ++ name
  | unknownBackground mode => "configuration error: unknown background mode: ".toList ++ mode
  | unreadableSettings => "configuration error".toList

end Error
end ColorScheme

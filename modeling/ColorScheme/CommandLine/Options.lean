import ColorScheme.CommandLine.Arguments

/-!
Reading the arguments of the command line. Options may come in any order around the
one format, each at most once; a single dash groups options of one letter, and two
dashes alone end the options.
-/

namespace ColorScheme.CommandLine

/-- The options that take a value. -/
inductive ValueOption where
  | style
  | file
  | name
  | background
  | config
  deriving DecidableEq

/-- The options that take none. -/
inductive Flag where
  | listStyles
  | listFormats
  | verbose
  deriving DecidableEq

def ValueOption.ofLong? (name : Text) : Option ValueOption :=
  [("name", .name), ("background", .background), ("config", .config)].lookup (String.ofList name)

def ValueOption.ofShort? : Char → Option ValueOption
  | 'S' => some .style
  | 'f' => some .file
  | _ => none

def ValueOption.text : ValueOption → Text
  | style => "-S <STYLE>".toList
  | file => "-f <FILE>".toList
  | name => "--name <NAME>".toList
  | background => "--background <BACKGROUND>".toList
  | config => "--config <FILE>".toList

def Flag.ofLong? (name : Text) : Option Flag :=
  [("list-styles", .listStyles), ("list-formats", .listFormats), ("verbose", .verbose)].lookup
    (String.ofList name)

def Flag.ofShort? : Char → Option Flag
  | 'v' => some .verbose
  | _ => none

def Flag.text : Flag → Text
  | listStyles => "--list-styles".toList
  | listFormats => "--list-formats".toList
  | verbose => "--verbose".toList

/-- What is wrong with the arguments. -/
inductive UsageError where
  | unexpected (argument : Text)
  | missingValue (option : ValueOption)
  | invalidValue (option : ValueOption) (value : Text)
  | unneededValue (name : Text)
  | repeatedOption (option : ValueOption)
  | repeatedFlag (flag : Flag)
  | conflict
  deriving DecidableEq

def UsageError.message : UsageError → Text
  | unexpected argument => "unexpected argument '".toList ++ argument ++ "' found".toList
  | missingValue option =>
      "a value is required for '".toList ++ option.text ++ "' but none was supplied".toList
  | invalidValue option value =>
      "invalid value '".toList ++ value ++ "' for '".toList ++ option.text ++ "'".toList
  | unneededValue name => "unexpected value for '--".toList ++ name ++ "' found".toList
  | repeatedOption option =>
      "the argument '".toList ++ option.text ++ "' cannot be used multiple times".toList
  | repeatedFlag flag =>
      "the argument '".toList ++ flag.text ++ "' cannot be used multiple times".toList
  | conflict => "the arguments cannot be used with one another".toList

/-- Why the arguments do not ask for a run. -/
inductive Stop where
  | help
  | version
  | usage (error : UsageError)
  deriving DecidableEq

/-- The meaning of an argument, or of a letter of a group. -/
inductive Item where
  | positional (value : Text)
  | flag (f : Flag)
  | valued (option : ValueOption) (value : Text)
  /-- An option whose value is the next argument. -/
  | awaiting (option : ValueOption)
  | endOfOptions
  | stop (s : Stop)
  deriving DecidableEq

namespace Item

def unexpected (argument : Text) : Item :=
  stop (.usage (.unexpected argument))

/-- The item of an argument with two dashes, which are taken off. -/
def ofLong (argument : Text) : Item :=
  let (name, value?) := match Text.cut? (· = '=') argument with
    | some (name, value) => (name, some value)
    | none => (argument, none)
  match ValueOption.ofLong? name, value? with
  | some option, some value => valued option value
  | some option, none => awaiting option
  | none, _ =>
      let plain? : Option Item :=
        match Flag.ofLong? name with
        | some f => some (flag f)
        | none =>
            if name = "help".toList then some (stop .help)
            else if name = "version".toList then some (stop .version)
            else none
      match plain?, value? with
      | some item, none => item
      | some _, some _ => stop (.usage (.unneededValue name))
      | none, _ => unexpected ("--".toList ++ argument)

/-- The items of a group of letters, whose dash is taken off. What follows the
letter of an option with a value is the value. -/
def ofGroup : Text → List Item
  | [] => []
  | c :: rest =>
      match ValueOption.ofShort? c, rest with
      | some option, [] => [awaiting option]
      | some option, '=' :: value => [valued option value]
      | some option, value => [valued option value]
      | none, _ =>
          match Flag.ofShort? c with
          | some f => flag f :: ofGroup rest
          | none =>
              if c = 'h' then [stop .help]
              else if c = 'V' then [stop .version]
              else [unexpected ['-', c]]

/-- The items of an argument before the end of the options. -/
def ofArgument : Text → List Item
  | ['-', '-'] => [endOfOptions]
  | '-' :: '-' :: long => [ofLong long]
  | '-' :: c :: rest => ofGroup (c :: rest)
  | argument => [positional argument]

end Item

namespace Arguments

/-- Sets a field that has not been set. -/
def once {α : Type} (field : Option α) (option : ValueOption) (next : Arguments) :
    Except Stop Arguments :=
  if field.isSome then .error (.usage (.repeatedOption option)) else .ok next

/-- Takes an option with its value. Names of files must not be empty. -/
def setOption (a : Arguments) (option : ValueOption) (value : Text) : Except Stop Arguments :=
  let invalid : Except Stop Arguments := .error (.usage (.invalidValue option value))
  match option with
  | .style => once a.style option { a with style := some value }
  | .name => once a.name option { a with name := some value }
  | .file => if value = [] then invalid else once a.file option { a with file := some value }
  | .config =>
      if value = [] then invalid else once a.config option { a with config := some value }
  | .background =>
      match Background.parse value with
      | .ok b => once a.background option { a with background := some b }
      | .error _ => invalid

def setFlag (a : Arguments) (f : Flag) : Except Stop Arguments :=
  let repeated : Except Stop Arguments := .error (.usage (.repeatedFlag f))
  match f with
  | .listStyles => if a.listStyles then repeated else .ok { a with listStyles := true }
  | .listFormats => if a.listFormats then repeated else .ok { a with listFormats := true }
  | .verbose => if a.verbose then repeated else .ok { a with verbose := true }

/-- Takes the format, of which there is one. -/
def setFormat (a : Arguments) (value : Text) : Except Stop Arguments :=
  if a.format.isSome then .error (.usage (.unexpected value))
  else .ok { a with format := some value }

/-- The rules on which arguments go together: a list is asked for alone, and no run
has two sources. -/
def check (a : Arguments) : Except Stop Arguments :=
  if a.listing then
    if a = { listStyles := true } ∨ a = { listFormats := true } then .ok a
    else .error (.usage .conflict)
  else if a.style.isSome && a.file.isSome then .error (.usage .conflict)
  else .ok a

end Arguments

/-- The arguments taken so far, and what the next one is. -/
structure ArgumentReader where
  arguments : Arguments := {}
  awaiting : Option ValueOption := none
  optionsEnded : Bool := false
  deriving DecidableEq

namespace ArgumentReader

def take (r : ArgumentReader) : Item → Except Stop ArgumentReader
  | .positional value => do return { r with arguments := ← r.arguments.setFormat value }
  | .flag f => do return { r with arguments := ← r.arguments.setFlag f }
  | .valued option value => do
      return { r with arguments := ← r.arguments.setOption option value }
  | .awaiting option => .ok { r with awaiting := some option }
  | .endOfOptions => .ok { r with optionsEnded := true }
  | .stop s => .error s

/-- Whether an argument cannot be the value of the option before it. -/
def looksLikeOption : Text → Bool
  | '-' :: _ :: _ => true
  | _ => false

def step (r : ArgumentReader) (argument : Text) : Except Stop ArgumentReader :=
  match r.awaiting with
  | some option =>
      if looksLikeOption argument then .error (.usage (.missingValue option))
      else ({ r with awaiting := none }).take (.valued option argument)
  | none =>
      if r.optionsEnded then r.take (.positional argument)
      else (Item.ofArgument argument).foldlM take r

end ArgumentReader

/-- The arguments of a command line, or why there are none. -/
def Arguments.read (arguments : List Text) : Except Stop Arguments := do
  let r ← arguments.foldlM ArgumentReader.step {}
  match r.awaiting with
  | some option => .error (.usage (.missingValue option))
  | none => r.arguments.check

def versionText : Text := "colorport 0.1.0\n".toList

def helpText : Text := Text.ofLines (List.map String.toList [
  "Convert syntax highlighting color schemes into editor formats",
  "",
  "Usage: colorport [OPTIONS] [FORMAT]",
  "",
  "Arguments:",
  "  [FORMAT]  Target format (defaults to the configured format)",
  "",
  "Options:",
  "  -S <STYLE>                     Use a built-in style",
  "  -f <FILE>                      Use a style definition file",
  "      --name <NAME>              Scheme name written into the output",
  "      --background <BACKGROUND>  Background mode: auto, light or dark",
  "      --config <FILE>            Configuration file (defaults to ~/.colorport.toml)",
  "      --list-styles              Show available styles and exit",
  "      --list-formats             Show available formats and exit",
  "  -v, --verbose                  Verbose logging",
  "  -h, --help                     Print help",
  "  -V, --version                  Print version"])

/-- How a message is shown that refuses the arguments. -/
def refusal (message : Text) : Text :=
  Text.ofLines ["error: ".toList ++ message, [], "For more information, try '--help'.".toList]

def Stop.ending : Stop → Ending
  | help => .told helpText
  | version => .told versionText
  | usage e => .refused (refusal e.message)

def Arguments.parse (arguments : List Text) : Except Ending Arguments :=
  (Arguments.read arguments).mapError Stop.ending

end ColorScheme.CommandLine

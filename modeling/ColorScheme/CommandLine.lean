import ColorScheme.Builtin
import ColorScheme.CommandLine.Options
import ColorScheme.Registry
import ColorScheme.Settings.Reader

/-!
One run of the program: a scheme is read from a built-in style or a definition
file and printed in a format, or names are listed. A run that fails leaves what it
has printed so far, and its error.
-/

namespace ColorScheme.CommandLine

/-- What a run leaves behind. -/
structure Outcome where
  code : Nat
  stdout : Text := []
  stderr : Text := []
  deriving DecidableEq

/-- The files that a run may read. -/
structure Surroundings where
  /-- What is found at a path. -/
  file : Text → File
  /-- What is found where settings are looked for, if they are. -/
  home : Option File

/-- What the program leaves to other libraries. -/
structure Libraries where
  /-- Reads the arguments of a command line. -/
  parse : List Text → Except Ending Arguments
  /-- What is shown of a message that refuses the arguments. -/
  refusal : Text → Text
  /-- Reads the text of a settings file. -/
  settings? : Text → Option Settings
  /-- What previews are shown on. -/
  terminal : Preview.Terminal

variable (libraries : Libraries)

/-- The settings of the file that is named, or else of the usual one. -/
def keptSettings (a : Arguments) (around : Surroundings) : Except Error Settings :=
  match a.config, around.home with
  | some path, _ => Settings.load libraries.settings? (around.file path)
  | none, some file => Settings.load libraries.settings? file
  | none, none => .ok {}

/-- The settings of a run: what the arguments say is put over those that are kept. -/
def settings (a : Arguments) (around : Surroundings) : Except Error Settings := do
  let kept ← keptSettings libraries a around
  return { kept with
    schemeName := a.name.getD kept.schemeName
    background := a.background.getD kept.background }

/-- The scheme that the arguments name a source of, if they do. -/
def sourceScheme? (a : Arguments) (around : Surroundings) (registry : Registry) :
    Except Error (Option Scheme) := do
  match a.style, a.file with
  | some name, _ => return some (← (← Builtin.find name).toScheme)
  | none, some path =>
      let file := around.file path
      if file = .missing then throw (.file .missing)
      let reader ← registry.require "definition".toList
      return some (← reader.read (← file.text))
  | none, none => return none

/-- Prints the scheme of the source in the format that is asked for, or else in the
usual one. -/
def printScheme (a : Arguments) (around : Surroundings) (settings : Settings)
    (registry : Registry) : Printing Unit := do
  match ← .ofExcept (sourceScheme? a around registry) with
  | none => return
  | some scheme =>
      let format ← .ofExcept (registry.require (a.format.getD settings.defaultFormat))
      format.print scheme

def print (a : Arguments) (around : Surroundings) : Printing Unit := do
  let settings ← .ofExcept (settings libraries a around)
  let registry ← .ofExcept (Registry.builtinWith libraries.terminal settings)
  if a.listStyles then .emitLines Builtin.names
  else if a.listFormats then .emitLines registry.names
  else printScheme a around settings registry

def sourceRequired : Text := "one of -S <STYLE> or -f <FILE> is required".toList

/-- What is asked for, which must be something. -/
def request (arguments : List Text) : Except Ending Arguments := do
  let a ← libraries.parse arguments
  if a.asksNothing then throw (.refused (libraries.refusal sourceRequired))
  return a

def Ending.outcome : Ending → Outcome
  | told text => { code := 0, stdout := text }
  | refused text => { code := 2, stderr := text }

/-- What is left behind where this has been printed. -/
def outcome (printing : Printing Unit) : Outcome :=
  match printing.result with
  | .ok () => { code := 0, stdout := printing.printed }
  | .error e =>
      { code := 1
        stdout := printing.printed
        stderr := Text.ofLines ["Error: ".toList ++ e.message] }

def runWith (arguments : List Text) (around : Surroundings) : Outcome :=
  match request libraries arguments with
  | .error ending => ending.outcome
  | .ok a => outcome (print libraries a around)

/-- The libraries of the program. -/
def Libraries.standard : Libraries where
  parse := Arguments.parse
  refusal := CommandLine.refusal
  settings? := Settings.ofText?
  terminal := .trueColor

def run (arguments : List Text) (around : Surroundings) : Outcome :=
  runWith .standard arguments around

/-- The paths of the files that a run with these arguments may read. -/
def pathsRead (arguments : List Text) : List Text :=
  match Arguments.parse arguments with
  | .ok a => a.config.toList ++ a.file.toList
  | .error _ => []

end ColorScheme.CommandLine

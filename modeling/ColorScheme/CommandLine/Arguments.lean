import ColorScheme.Background

/-!
What the arguments of the command line ask for, and how a run ends before it begins
where they ask for none.
-/

namespace ColorScheme.CommandLine

/-- What the arguments ask for. -/
structure Arguments where
  format : Option Text := none
  style : Option Text := none
  file : Option Text := none
  name : Option Text := none
  background : Option Background := none
  config : Option Text := none
  listStyles : Bool := false
  listFormats : Bool := false
  verbose : Bool := false
  deriving DecidableEq

namespace Arguments

/-- Whether a list of names is asked for. -/
def listing (a : Arguments) : Bool :=
  a.listStyles || a.listFormats

/-- Whether neither a list nor the source of a scheme is asked for. -/
def asksNothing (a : Arguments) : Bool :=
  !a.listing && a.style.isNone && a.file.isNone

end Arguments

/-- How the program ends where its arguments are not for a run. -/
inductive Ending where
  /-- Something about the program has been asked for, and is shown. -/
  | told (text : Text)
  | refused (text : Text)
  deriving DecidableEq

end ColorScheme.CommandLine

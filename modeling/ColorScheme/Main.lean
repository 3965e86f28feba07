import ColorScheme.CommandLine

/-!
The program: it collects the files that a run may read and prints what the run
leaves behind.
-/

namespace ColorScheme

/-- What is found at a path. -/
def findFile (path : String) : IO File := do
  try return .content (← IO.FS.readBinFile path)
  catch
    | .noFileOrDirectory .. => return .missing
    | _ => return .directory

/-- One run of the program with what the system holds. -/
def runProgram (args : List String) : IO UInt32 := do
  let arguments := args.map String.toList
  let files ← (CommandLine.pathsRead arguments).mapM fun path =>
    return (path, ← findFile (String.ofList path))
  let home ← (← IO.getEnv "HOME").mapM fun home => findFile (home ++ "/.colorport.toml")
  let outcome := CommandLine.run arguments
    { file := fun path => (files.lookup path).getD .missing, home }
  (← IO.getStdout).putStr (String.ofList outcome.stdout)
  (← IO.getStderr).putStr (String.ofList outcome.stderr)
  return UInt32.ofNat outcome.code

end ColorScheme

def main (args : List String) : IO UInt32 :=
  ColorScheme.runProgram args

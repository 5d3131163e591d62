import LinearProgram.CommandLine.Run

/-!
# The program

Reads the files that the arguments name, runs the command, and writes its
outcome: the printed text to standard output, everything else to standard error.
-/

namespace LinearProgram.CommandLine

/-- Files that a request names. -/
def Request.files : Request → List String
  | version | help _ => []
  | invoke i =>
    i.config.toList ++ match i.command with
      | .solve file .. | .check file _ => [file]
      | .demo .. => []

/-- The text of what is told on the side. -/
def Aside.text : Aside → String
  | line text => text
  | log entry => entry.text

/-- What is said about a wrong command line. -/
def usageText : String :=
  "usage: simplex [--config PATH] [-v] [-q] (solve FILE | check FILE | demo)"

/-- The text of a file, or why it cannot be read. -/
def readFile (name : String) : IO (Except ReadError String) := do
  try
    return textOfBytes (← IO.FS.readBinFile name)
  catch e =>
    return match e with
      | .noFileOrDirectory .. => .error .notFound
      | .inappropriateType .. => .error .isDirectory
      | e => .error (.other (toString e))

/-- Carries out a request with the files that it names. -/
def Request.perform (r : Request) : IO UInt32 := do
  let contents ← r.files.mapM fun name => do return (name, ← readFile name)
  let outcome := r.run fun name => (contents.lookup name).getD (.error .notFound)
  for aside in outcome.asides do
    IO.eprintln aside.text
  IO.print outcome.printed
  return outcome.exit.toUInt32

end LinearProgram.CommandLine

/-- Runs the program. -/
def main (arguments : List String) : IO UInt32 := do
  match LinearProgram.CommandLine.parse? arguments with
  | none =>
    IO.eprintln LinearProgram.CommandLine.usageText
    return LinearProgram.CommandLine.usageExit.toUInt32
  | some request => request.perform

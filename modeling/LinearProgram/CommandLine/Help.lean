import LinearProgram.CommandLine.Arguments
import LinearProgram.Report.Table

/-!
# Help

The help about the program or about a command says in one line what it is for, how
it is called, and what its commands, operands and options are.
-/

namespace LinearProgram.CommandLine

/-- What a command does. -/
def CommandName.about : CommandName → String
  | solve => "Solve a JSON problem file and print the solution"
  | check => "Check a problem file for errors"
  | demo => "Solve the built-in sandal factory example"
  | help => "Print this message or the help of the given subcommand(s)"

/-- What is said about an option.  One of them means less to the command that only checks. -/
def Flag.about (command : Option CommandName) : Flag → String
  | config => "YAML file with default settings"
  | verbose => "Increase log verbosity (-v info, -vv debug, -vvv trace)"
  | quiet => "Only log errors"
  | version => "Print version"
  | help => "Print help"
  | maxIterations => "Maximum number of pivots"
  | twoPhase =>
    if command = some .check then "Validate as a two-phase problem"
    else "Allow >=, = and negative right-hand sides (two-phase simplex)"
  | steps => "Print every tableau of the solve"
  | format => "Output format [possible values: pretty, json]"

/-- How an option is written: its letter and its name, then its value, or dots if it may repeat. -/
def Flag.usage (f : Flag) : String :=
  let letter := match f.letter? with
    | some c => String.ofList ['-', c, ',', ' ']
    | none => "    "
  let value := match f with
    | config => " <CONFIG>"
    | maxIterations => " <MAX_ITERATIONS>"
    | format => " <FORMAT>"
    | verbose => "..."
    | _ => ""
  letter ++ "--" ++ f.name ++ value

/-- The options that the help lists, in its order. -/
def Flag.listed : Option CommandName → List Flag
  | none => [config, verbose, quiet, help, version]
  | some .solve => [config, maxIterations, twoPhase, verbose, quiet, steps, format, help]
  | some .check => [config, twoPhase, verbose, quiet, help]
  | some .demo => [config, steps, format, verbose, quiet, help]
  | some .help => []

/-- Terms with their explanations under a title, the explanations one below the other. -/
def helpSection (title : String) (entries : List (String × String)) : String :=
  let width := (entries.map (·.1.length)).foldl max 0
  if entries.isEmpty then ""
  else "\n" ++ title ++ ":\n" ++ String.join (entries.map fun e =>
    "  " ++ String.ofList (Table.padRight width e.1.toList) ++ "  " ++ e.2 ++ "\n")

/-- How the program or a command is called. -/
def usageLine : Option CommandName → String
  | none => "simplex [OPTIONS] <COMMAND>"
  | some .solve => "simplex solve [OPTIONS] <FILE>"
  | some .check => "simplex check [OPTIONS] <FILE>"
  | some .demo => "simplex demo [OPTIONS]"
  | some .help => "simplex help [COMMAND]..."

/-- What the operand of a command is. -/
def listedOperands : Option CommandName → List (String × String)
  | some .solve => [("<FILE>", "The problem file")]
  | some .check => [("<FILE>", "The file to check")]
  | some .help => [("[COMMAND]...", "Print help for the subcommand(s)")]
  | _ => []

/-- The help about the program, or about a command. -/
def helpText (command : Option CommandName) : String :=
  let about := match command with
    | none => "Solve linear programs with the tableau simplex method"
    | some name => name.about
  let commands := match command with
    | none => CommandName.all.map fun name => (name.word, name.about)
    | some _ => []
  about ++ "\n\nUsage: " ++ usageLine command ++ "\n" ++ helpSection "Commands" commands ++
    helpSection "Arguments" (listedOperands command) ++
    helpSection "Options" ((Flag.listed command).map fun f => (f.usage, f.about command))

end LinearProgram.CommandLine

import LinearProgram.CommandLine.Files
import LinearProgram.CommandLine.Help
import LinearProgram.Json.Draft
import LinearProgram.Report.Print

/-!
# Running a command

A run is a function from the files and the arguments to its outcome: what is
printed, what is told on the side, and the exit code.  The exit code is 0 for a
problem that is solved or valid, 1 if something is wrong with a file or with the
problem in it, and 2 for a problem that has no optimal solution within the
budget.  A run that breaks off because a table cannot be rendered has an exit
code of its own, whatever the solution is.
-/

namespace LinearProgram.CommandLine

/-- Something that is told beside the printed text. -/
inductive Aside : Type where
  | line (text : String)
  | log (entry : LogEntry)

/-- What a run results in. -/
structure Outcome : Type where
  exit : Nat
  printed : String
  /-- What is told on the side, in its order. -/
  asides : List Aside

/-- Why a command could not be carried out. -/
inductive Failure : Type where
  | unreadable (file : String) (error : ReadError)
  /-- The text of a file is not a draft of a problem. -/
  | notProblem (file : String)
  /-- The text of a file is not a mapping of settings. -/
  | notConfig (file : String)
  | unknownRelation (error : UnknownRelation)
  | unsound (fault : Fault Float)

/-- What is said about a failure. -/
def Failure.message : Failure → String
  | unreadable file error => "Error reading " ++ file ++ ": " ++ error.message
  | notProblem file => "Invalid problem file " ++ file ++ ": ..."
  | notConfig file => "Invalid config file " ++ file ++ ": ..."
  | unknownRelation error => error.message
  | unsound fault => fault.message messageStyle.text

/-- The outcome of a run that fails. -/
def Failure.outcome (f : Failure) : Outcome := ⟨1, "", [.line f.message]⟩

/-- The exit code of a run that breaks off. -/
def breakOffExit : Nat := 101

/-- What is said when a column of a table is too wide. -/
def tooWideMessage : String := "Formatting argument out of range"

/-- The outcome of a run that prints something last, with the exit code for printing it to the
end. -/
def Outcome.ofPrintout (exit : Nat) (p : Printout) : Outcome :=
  if p.finished then ⟨exit, p.text, []⟩ else ⟨breakOffExit, p.text, [.line tooWideMessage]⟩

/-- The outcome with log entries before everything else. -/
def Outcome.after (entries : List LogEntry) (o : Outcome) : Outcome :=
  { o with asides := entries.map .log ++ o.asides }

/-- The outcome without the log entries beyond a level. -/
def Outcome.upTo (level : LogLevel) (o : Outcome) : Outcome :=
  { o with asides := o.asides.filter fun aside => match aside with
      | .line _ => true
      | .log entry => level.isShownUpTo entry.level }

/-! ## Files -/

/-- The settings of a run. -/
def readConfig (files : Files) : Option String → Except Failure Config
  | none => .ok .empty
  | some file =>
    match files file with
    | .error e => .error (.unreadable file e)
    | .ok text =>
      match Config.ofText? text with
      | some c => .ok c
      | none => .error (.notConfig file)

/-- The draft of a problem in a file. -/
def readDraft (files : Files) (file : String) : Except Failure (Draft Float) :=
  match files file with
  | .error e => .error (.unreadable file e)
  | .ok text =>
    match Draft.ofJsonText? text with
    | some d => .ok d
    | none => .error (.notProblem file)

/-- Carries out what is to be done with the problem in a file.  What the reading of its draft warns
about comes first, also if the draft cannot be completed. -/
def withProblem (files : Files) (file : String) (use : Problem Float → Outcome) : Outcome :=
  match readDraft files file with
  | .error failure => failure.outcome
  | .ok d =>
    let (result, warnings) := d.read.run.run []
    Outcome.after warnings <|
      match result with
      | .error e => (Failure.unknownRelation e).outcome
      | .ok p => use p

/-! ## Commands -/

/-- Under which name the commands speak. -/
def commandSpeaker : String := "simplex"

/-- The entry about a solve that is about to begin. -/
def logSolving (file : String) (s : Solver Float) : LogEntry :=
  ⟨.info, commandSpeaker, "solving",
    [("file", file), ("max_iterations", toString s.maxIterations),
      ("two_phase", toString s.twoPhase)]⟩

/-- Solves a problem and prints the report. -/
def solveAndPrint (s : Solver Float) (p : Problem Float) (steps : Bool) (format : OutputFormat) :
    Outcome :=
  match s.solve p with
  | .error fault => (Failure.unsound fault).outcome
  | .ok r =>
    Outcome.after r.log <|
      .ofPrintout (if r.solution.isOptimal then 0 else 2) (r.printed format p.names steps)

/-- Says whether a problem is sound. -/
def checkAndPrint (file : String) (p : Problem Float) (twoPhase : Bool) : Outcome :=
  match p.validate twoPhase with
  | .ok _ =>
    { exit := 0
      printed := "✓ " ++ file ++ " is valid\n  " ++ toString p.variableCount ++
        " variables\n  " ++ toString p.constraintCount ++ " constraints\n"
      asides := [] }
  | .error fault =>
    { exit := 1
      printed := ""
      asides := [.line ("✗ " ++ file ++ " has errors:"),
        .line ("  " ++ fault.message messageStyle.text)] }

/-- A factory of sandals: two products share the sponge and the glue. -/
def sandalFactory : Problem Float :=
  ((Problem.ofObjective [12000, 10000] .maximize).addConstraint
      ⟨"sponge", [908, 910], .le, 2000000⟩).addConstraint
    ⟨"glue", [67, 80], .le, 150000⟩

/-- The solver that a command uses. -/
def solverFor (c : Config) (maxIterations : Option Nat) (twoPhase : Bool) : Solver Float :=
  { Solver.default with maxIterations := c.maxIterationsOr maxIterations, twoPhase }

/-- Carries out a command under the given settings. -/
def Command.run (files : Files) (c : Config) : Command → Outcome
  | solve file maxIterations twoPhase steps format =>
    withProblem files file fun p =>
      let s := solverFor c maxIterations (c.twoPhaseOr twoPhase)
      (solveAndPrint s p steps (c.formatOr format)).after [logSolving file s]
  | check file twoPhase =>
    withProblem files file fun p => checkAndPrint file p (c.twoPhaseOr twoPhase)
  | demo steps format =>
    solveAndPrint (solverFor c none false) sandalFactory steps (c.formatOr format)

/-- Carries out a command with its settings read from a file, if one is named. -/
def Invocation.run (files : Files) (i : Invocation) : Outcome :=
  match readConfig files i.config with
  | .error failure => failure.outcome
  | .ok c => (i.command.run files c).upTo (c.logLevel i.quiet i.verbose)

/-- The name and version of the program. -/
def versionText : String := "simplex 0.1.0"

/-- Carries out a request. -/
def Request.run (files : Files) : Request → Outcome
  | version => ⟨0, versionText ++ "\n", []⟩
  | help about => ⟨0, helpText about, []⟩
  | invoke i => i.run files

/-- The exit code of a wrong command line. -/
def usageExit : Nat := 2

/-- Carries out a command line; a wrong one has no outcome. -/
def run? (files : Files) (arguments : List String) : Option Outcome :=
  (parse? arguments).map (Request.run files)

end LinearProgram.CommandLine

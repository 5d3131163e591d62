import LinearProgram.Report.Journal
import LinearProgram.Solver.Run
import LinearProgram.Yaml.Document

/-!
# Settings from a file

A settings file is a YAML mapping with up to four known keys.  A value that is
not set leaves the choice to the command line, and that to the defaults.
-/

namespace LinearProgram

/-- How results are printed. -/
inductive OutputFormat : Type where
  /-- Text for a reader. -/
  | pretty
  | json
deriving DecidableEq

namespace OutputFormat

/-- The word for a format. -/
def word : OutputFormat → String
  | pretty => "pretty"
  | json => "json"

/-- The format with a word. -/
def ofWord? (word : String) : Option OutputFormat :=
  if word = pretty.word then some pretty
  else if word = json.word then some json
  else none

end OutputFormat

/-- Settings that a file may make. -/
structure Config : Type where
  /-- The number of pivots allowed. -/
  maxIterations : Option Nat
  /-- Whether problems that need a first phase are accepted. -/
  twoPhase : Option Bool
  /-- How results are printed. -/
  format : Option OutputFormat
  /-- The name or number of a log level. -/
  verbosity : Option String
deriving DecidableEq

/-- The level that a text names: by its name in either case, or by its rank. -/
def LogLevel.ofText? (s : String) : Option LogLevel :=
  match Text.count? s with
  | some n => LogLevel.all.find? (·.rank == n)
  | none => LogLevel.all.find? (·.name == s.map Char.toLower)

namespace Config

/-- Settings that leave everything open. -/
def empty : Config := ⟨none, none, none, none⟩

/-- The value of a setting: none at all for a wrong one, none inside for one that is not set. -/
def setting? {α : Type} (m : Yaml.Mapping) (key : String) (read? : Yaml.Leaf → Option α) :
    Option (Option α) :=
  match m.filter (·.1 == key) with
  | [] => some none
  | [(_, leaf)] => do if ← leaf.isNull? then some none else (read? leaf).map some
  | _ => none

/-- The keys of a settings file. -/
def keys : List String := ["max_iterations", "two_phase", "format", "verbosity"]

/-- Settings from a mapping.  Unknown and repeated keys are refused. -/
def ofMapping? (m : Yaml.Mapping) : Option Config := do
  if !(m.all fun entry => keys.contains entry.1) then none
  return { maxIterations := ← setting? m "max_iterations" Yaml.Leaf.size?
           twoPhase := ← setting? m "two_phase" Yaml.Leaf.bool?
           format := ← setting? m "format" fun leaf => leaf.choice?.bind OutputFormat.ofWord?
           verbosity := ← setting? m "verbosity" fun leaf => some leaf.text }

/-- Settings from the text of a file. -/
def ofText? (s : String) : Option Config :=
  if Text.isBlankText s then some empty
  else (Yaml.mapping? s).bind ofMapping?

/-- The level of the log: `quiet` leaves errors only, `verbose` counts how often more was asked
for, and otherwise the file decides. -/
def logLevel (c : Config) (quiet : Bool) (verbose : Nat) : LogLevel :=
  if quiet then .error
  else match verbose with
    | 0 => (c.verbosity.bind LogLevel.ofText?).getD .warn
    | 1 => .info
    | 2 => .debug
    | _ => .trace

/-- The number of pivots allowed, given the choice on the command line. -/
def maxIterationsOr (c : Config) (choice : Option Nat) : Nat :=
  (choice <|> c.maxIterations).getD defaultMaxIterations

/-- Whether problems that need a first phase are accepted. -/
def twoPhaseOr (c : Config) (choice : Bool) : Bool := choice || c.twoPhase.getD false

/-- How results are printed, given the choice on the command line. -/
def formatOr (c : Config) (choice : Option OutputFormat) : OutputFormat :=
  (choice <|> c.format).getD .pretty

end Config

end LinearProgram

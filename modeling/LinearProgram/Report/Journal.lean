import LinearProgram.Report.Narration
import LinearProgram.Text.Quoted

/-!
# Log entries

What happens in a solve is also told as log entries of different levels.  All of
them can be read off the recorded steps.  In particular an artificial variable
that could not be driven out is one that is still basic when the problem's
objective is restored, and a solve that ran out of budget has used exactly its
budget.
-/

namespace LinearProgram

/-- How important a log entry is; the more important come first. -/
inductive LogLevel : Type where
  | error
  | warn
  | info
  | debug
  | trace
deriving DecidableEq

namespace LogLevel

/-- Position in the order of importance, counted from one. -/
def rank : LogLevel → Nat
  | error => 1
  | warn => 2
  | info => 3
  | debug => 4
  | trace => 5

/-- The name of a level in lower case. -/
def name : LogLevel → String
  | error => "error"
  | warn => "warn"
  | info => "info"
  | debug => "debug"
  | trace => "trace"

/-- The name of a level as it stands in a log. -/
def label (l : LogLevel) : String := l.name.map Char.toUpper

/-- All levels. -/
def all : List LogLevel := [error, warn, info, debug, trace]

/-- Whether entries of a level are shown when entries up to a limit are. -/
def isShownUpTo (limit l : LogLevel) : Bool := l.rank ≤ limit.rank

end LogLevel

/-- One entry of a log. -/
structure LogEntry : Type where
  level : LogLevel
  /-- The part of the program that speaks. -/
  speaker : String
  message : String
  /-- Names with the texts of their values. -/
  fields : List (String × String)
deriving DecidableEq

/-- The text of a log entry. -/
def LogEntry.text (e : LogEntry) : String :=
  e.level.label ++ " " ++ e.speaker ++ ": " ++ e.message ++
    String.join (e.fields.map fun f => " " ++ f.1 ++ "=" ++ f.2)

/-- Under which name the method of pivots speaks. -/
def solverSpeaker : String := "simplex_solver::simplex"

/-- The entry about the starting tableau. -/
def Tableau.logStart {α : Type} (t : Tableau α) : LogEntry :=
  ⟨.debug, solverSpeaker, "built initial tableau",
    [("rows", toString t.rowCount), ("columns", toString t.layout.columnCount)]⟩

/-- The entry about a pivot. -/
def Pivot.log (p : Pivot Float) : LogEntry :=
  ⟨.debug, solverSpeaker, "pivot",
    [("iteration", toString p.iteration), ("row", toString p.row), ("column", toString p.column),
      ("element", logStyle.text p.element), ("entering", p.entering), ("leaving", p.leaving)]⟩

/-- The entries about artificial variables that stay in the basis, from the first row to the
last. -/
def Tableau.logRedundant {α : Type} (t : Tableau α) : List LogEntry :=
  t.rows.zipIdx.filterMap fun (r, i) =>
    if t.layout.isArtificial r.basic then
      some ⟨.debug, solverSpeaker, "redundant constraint row keeps its artificial",
        [("row", toString i), ("artificial", Text.quoted (t.layout.label r.basic))]⟩
    else none

/-- The warning that goes with a verdict, if any. -/
def Verdict.warnings (iterations : Nat) : Verdict Float → List LogEntry
  | limitReached =>
    [⟨.warn, solverSpeaker, "iteration limit reached before optimality",
      [("max_iterations", toString iterations)]⟩]
  | infeasible residual =>
    [⟨.warn, solverSpeaker, "phase 1 ended with positive artificial sum",
      [("residual", logStyle.text residual)]⟩]
  | _ => []

/-- The entry about the end of a solve. -/
def Solution.log (s : Solution Float) : LogEntry :=
  ⟨.info, solverSpeaker, "solve finished",
    [("status", s.status.word), ("iterations", toString s.iterations),
      ("objective", logStyle.text s.objective.toFloat)]⟩

/-- The entries about a step. -/
def Step.log (s : Step Float) : List LogEntry :=
  match s.event with
  | .start => [s.tableau.logStart]
  | .pivot _ p => [p.log]
  | .restoreObjective => s.tableau.logRedundant
  | .finish verdict solution => verdict.warnings solution.iterations ++ [solution.log]
  | _ => []

/-- The entries about a solve. -/
def Report.log (r : Report Float) : List LogEntry := r.steps.flatMap Step.log

end LinearProgram

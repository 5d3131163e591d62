import LinearProgram.Decimal.Style
import LinearProgram.Report.Table
import LinearProgram.Solver.Run

/-!
# Steps in words and tables

Every step of a solve is told in one sentence and shown as a table.  The
sentences are written for any type of numbers with fixed-place texts; tables show
floating-point values with two places, and values too small to be seen as `0`.
-/

namespace LinearProgram

/-- What the sentence about a pivot begins with. -/
def Stage.opening : Stage → String
  | only => ""
  | first => "phase 1 "
  | second => "phase 2 "

/-- The sentence about a pivot that the two rules chose. -/
def Pivot.sentence {α : Type} (fixed : Nat → α → String) (stage : Stage) (p : Pivot α) : String :=
  stage.opening ++ "iteration " ++ toString p.iteration ++ ": pivot element = " ++
    fixed 2 p.element ++ " at row " ++ toString (p.row + 1) ++ ", column " ++
    toString (p.column + 1) ++ " (" ++ p.entering ++ " enters, " ++ p.leaving ++ " leaves)"

/-- The sentence about the exchange of an artificial variable. -/
def Pivot.exchangeSentence {α : Type} (p : Pivot α) : String :=
  "phase 1: drive " ++ p.leaving ++ " out of row " ++ toString (p.row + 1) ++ " (" ++
    p.entering ++ " enters at zero level)"

/-- The sentence about a verdict, given the columns and the number of pivots. -/
def Verdict.sentence {α : Type} (fixed : Nat → α → String) (l : Layout) (iterations : Nat) :
    Verdict α → String
  | optimal => "optimal solution reached"
  | unbounded column =>
    "unbounded: " ++ l.label column ++
      " can increase without limit, no row has a positive entry in column " ++
      toString (column + 1)
  | infeasible residual =>
    "infeasible: artificial variables still sum to " ++ fixed 6 residual ++
      " at the end of phase 1"
  | limitReached =>
    "iteration limit reached: stopped after " ++ toString iterations ++
      " pivots without optimality"

/-- The sentence about an event in a tableau with the given columns. -/
def Event.sentence {α : Type} (fixed : Nat → α → String) (l : Layout) : Event α → String
  | start =>
    if l.artificials = 0 then "initial tableau: standard-form construction via slack variables"
    else
      "initial tableau: standard-form construction via slack, surplus and artificial variables"
  | priceArtificials => "phase 1: minimize the sum of artificial variables"
  | pivot stage p => p.sentence fixed stage
  | driveOut p => p.exchangeSentence
  | restoreObjective => "phase 2: restore the original objective"
  | finish verdict solution => verdict.sentence fixed l solution.iterations

/-- The sentence about a step. -/
def Step.sentence {α : Type} (fixed : Nat → α → String) (s : Step α) : String :=
  s.event.sentence fixed s.tableau.layout

/-- The sentence about a step over floating-point values. -/
def Step.description (s : Step Float) : String := s.sentence fixedText

/-- The magnitude below which a value is shown as zero. -/
def displayEpsilon : Float := 0.001

/-- A value as tables show it. -/
def displayValue (x : Float) : String :=
  match Binary.ofFloat x with
  | .infinite negative => infinityText negative
  | _ => if x.abs < displayEpsilon then "0" else fixedText 2 x

/-- The cells of a step's tableau: labels above, names of basic variables to the left. -/
def Step.cells (s : Step Float) : List (List String) :=
  ("Basis" :: s.tableau.layout.labels) ::
    List.zipWith (fun name row => name :: row.map displayValue) s.tableau.basisNames
      s.tableau.entries

/-- The tableau of a step as lines of text, unless one of its columns is too wide. -/
def Step.table? (s : Step Float) : Option String := Table.render? s.cells

/-- An extended value as a floating-point value. -/
def Extended.toFloat : Extended Float → Float
  | finite x => x
  | posInfinity => 1.0 / 0.0
  | negInfinity => -1.0 / 0.0

end LinearProgram

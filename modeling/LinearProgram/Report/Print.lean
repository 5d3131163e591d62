import LinearProgram.Config
import LinearProgram.Json.Report

/-!
# Printed results

A report is printed as text for a reader or as indented JSON, on demand with all
steps.  As text, a step whose table cannot be rendered ends the printing: what
stands before the table has been printed by then, and nothing comes after it.
-/

namespace LinearProgram

/-- Text that is printed, as far as the printing comes. -/
structure Printout : Type where
  text : String
  /-- Whether the printing has come to its end. -/
  finished : Bool

namespace Printout

/-- A text printed to its end. -/
def ofText (text : String) : Printout := ⟨text, true⟩

/-- Prints on, unless the printing has ended before. -/
def andThen (first next : Printout) : Printout :=
  if first.finished then ⟨first.text ++ next.text, next.finished⟩ else first

/-- One after the other, up to the first that is not printed to its end. -/
def join (parts : List Printout) : Printout := parts.foldr andThen (ofText "")

end Printout

/-- A step with its tableau, and an empty line. -/
def Step.printed (s : Step Float) : Printout :=
  let heading := "Step " ++ toString s.number ++ ": " ++ s.description ++ "\n"
  match s.table? with
  | some table => .ofText (heading ++ table ++ "\n")
  | none => ⟨heading, false⟩

/-- The lines about a status. -/
def Solution.printedStatus (s : Solution Float) : String :=
  match s.status with
  | .optimal => "Status: OPTIMAL\n"
  | .unbounded => "Status: UNBOUNDED\nThe objective can be improved without limit.\n"
  | .infeasible => "Status: INFEASIBLE\nNo solution exists that satisfies all constraints.\n"
  | .iterationLimitReached =>
    "Status: ITERATION LIMIT REACHED\nStopped after " ++ toString s.iterations ++
      " pivots; the values below are not optimal.\n"

/-- The line of a variable: its name to the left, its value to the right. -/
def printedValue (name : String) (value : Float) : String :=
  "  " ++ String.ofList (Table.padRight 10 name.toList) ++ " " ++
    String.ofList (Table.padLeft 14 (displayValue value).toList) ++ "\n"

/-- A solution as text for a reader. -/
def Solution.printed (names : List String) (s : Solution Float) : String :=
  s.printedStatus ++ "Objective: " ++ displayValue s.objective.toFloat ++ "\n" ++
    "Iterations: " ++ toString s.iterations ++ "\n\nVariables:\n" ++
    String.join (List.zipWith printedValue names s.values)

/-- A report as text for a reader. -/
def Report.printedText (names : List String) (withSteps : Bool) (r : Report Float) : Printout :=
  (Printout.join (if withSteps then r.steps.map Step.printed else [])).andThen
    (.ofText (r.solution.printed names))

/-- A report as indented JSON. -/
def Report.printedJson (names : List String) (withSteps : Bool) (r : Report Float) : String :=
  let steps := if withSteps then [("steps", r.stepsJson)] else []
  (Json.ofFields
    ([("variables", Json.ofTexts names), ("solution", r.solution.toJson)] ++ steps)).indentedText
    ++ "\n"

/-- A report in a format. -/
def Report.printed (format : OutputFormat) (names : List String) (withSteps : Bool)
    (r : Report Float) : Printout :=
  match format with
  | .pretty => r.printedText names withSteps
  | .json => .ofText (r.printedJson names withSteps)

end LinearProgram

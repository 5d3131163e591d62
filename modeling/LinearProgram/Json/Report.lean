import LinearProgram.Json.Problem
import LinearProgram.Report.Narration

/-!
# Reports in JSON

Solutions and pivots are written and read; steps and whole reports are written
only.  An objective that is not finite is written as a word, because there is no
number for it.
-/

namespace LinearProgram

/-- An objective in JSON. -/
def Extended.toJson (x : Extended Float) : Json :=
  match Binary.ofFloat x.toFloat with
  | .undefined => .ofText "nan"
  | .infinite negative => .ofText (infinityText negative)
  | .finite .. => .ofFloat x.toFloat

/-- Reads an objective: a number, or one of three words. -/
def Extended.ofJson? : Json → Option (Extended Float)
  | .number n => n.toFloat?.map .finite
  | .string (some "inf") => some .posInfinity
  | .string (some "-inf") => some .negInfinity
  | .string (some "nan") => some (.finite (0.0 / 0.0))
  | _ => none

/-- A solution in JSON. -/
def Solution.toJson (s : Solution Float) : Json :=
  .ofFields [("status", .ofText s.status.word), ("values", .ofFloats s.values),
    ("objective_value", s.objective.toJson), ("iterations", .ofNat s.iterations)]

/-- Reads a solution. -/
def Solution.ofJson? (v : Json) : Option (Solution Float) := do
  match ← v.record? ["status", "values", "objective_value", "iterations"] with
  | [status, values, objective, iterations] =>
    return { status := ← Json.required? (Json.word? Status.ofWord?) status
             values := ← Json.required? (Json.list? Json.float?) values
             objective := ← Json.required? Extended.ofJson? objective
             iterations := ← Json.required? Json.size? iterations }
  | _ => none

/-- A pivot in JSON. -/
def Pivot.toJson (p : Pivot Float) : Json :=
  .ofFields [("iteration", .ofNat p.iteration), ("row", .ofNat p.row),
    ("column", .ofNat p.column), ("element", .ofFloat p.element),
    ("entering", .ofText p.entering), ("leaving", .ofText p.leaving)]

/-- Reads a pivot. -/
def Pivot.ofJson? (v : Json) : Option (Pivot Float) := do
  match ← v.record? ["iteration", "row", "column", "element", "entering", "leaving"] with
  | [iteration, row, column, element, entering, leaving] =>
    return { iteration := ← Json.required? Json.size? iteration
             row := ← Json.required? Json.size? row
             column := ← Json.required? Json.size? column
             element := ← Json.required? Json.float? element
             entering := ← Json.required? Json.text? entering
             leaving := ← Json.required? Json.text? leaving }
  | _ => none

/-- A tableau in JSON. -/
def Tableau.toJson (t : Tableau Float) : Json :=
  .ofFields [("data", .array (t.entries.map Json.ofFloats)), ("labels", .ofTexts t.layout.labels),
    ("n_vars", .ofNat t.layout.decisionCount), ("n_slack", .ofNat t.layout.slacks),
    ("n_artificial", .ofNat t.layout.artificials)]

/-- A step in JSON. -/
def Step.toJson (s : Step Float) : Json :=
  .ofFields [("number", .ofNat s.number), ("description", .ofText s.description),
    ("tableau", s.tableau.toJson), ("basis", .ofTexts s.tableau.basisNames),
    ("pivot", .ofOption Pivot.toJson s.pivot?),
    ("solution", .ofOption Solution.toJson s.solution?)]

/-- The steps of a report in JSON. -/
def Report.stepsJson (r : Report Float) : Json := .array (r.steps.map Step.toJson)

/-- A report in JSON. -/
def Report.toJson (r : Report Float) : Json :=
  .ofFields [("solution", r.solution.toJson), ("steps", r.stepsJson)]

/-- The JSON text of a solution. -/
def Solution.jsonText (s : Solution Float) : String := s.toJson.compactText

/-- Reads a solution from JSON text. -/
def Solution.ofJsonText? (s : String) : Option (Solution Float) := do
  Solution.ofJson? (← Json.parse? s)

/-- The JSON text of a pivot. -/
def Pivot.jsonText (p : Pivot Float) : String := p.toJson.compactText

/-- Reads a pivot from JSON text. -/
def Pivot.ofJsonText? (s : String) : Option (Pivot Float) := do
  Pivot.ofJson? (← Json.parse? s)

end LinearProgram

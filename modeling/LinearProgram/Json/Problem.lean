import LinearProgram.Json.Decode
import LinearProgram.Json.Writer
import LinearProgram.Problem

/-!
# Problems in JSON

A problem is written as a record of its variables, its objective and its
constraints.  All fields are required when it is read.
-/

namespace LinearProgram

/-- The word for a sense. -/
def Sense.word : Sense → String
  | maximize => "maximize"
  | minimize => "minimize"

/-- The sense with a word. -/
def Sense.ofWord? (word : String) : Option Sense :=
  if word = Sense.maximize.word then some .maximize
  else if word = Sense.minimize.word then some .minimize
  else none

/-- A sense in JSON. -/
def Sense.toJson (s : Sense) : Json := .ofText s.word

/-- Reads a sense. -/
def Sense.ofJson? : Json → Option Sense := Json.word? Sense.ofWord?

/-- A relation in JSON. -/
def Relation.toJson (r : Relation) : Json := .ofText r.symbol

/-- Reads a relation; only the symbols count. -/
def Relation.ofJson? : Json → Option Relation := Json.word? Relation.ofSymbol?

/-- Numbers in JSON. -/
def Json.ofFloats (xs : List Float) : Json := .array (xs.map Json.ofFloat)

/-- An objective in JSON. -/
def Objective.toJson (o : Objective Float) : Json :=
  .ofFields [("coefficients", .ofFloats o.coefficients), ("sense", o.sense.toJson)]

/-- Reads an objective. -/
def Objective.ofJson? (v : Json) : Option (Objective Float) := do
  match ← v.record? ["coefficients", "sense"] with
  | [coefficients, sense] =>
    return { coefficients := ← Json.required? (Json.list? Json.float?) coefficients
             sense := ← Json.required? Sense.ofJson? sense }
  | _ => none

/-- A constraint in JSON. -/
def Constraint.toJson (c : Constraint Float) : Json :=
  .ofFields [("name", .ofText c.name), ("coefficients", .ofFloats c.coefficients),
    ("op", c.relation.toJson), ("rhs", .ofFloat c.rhs)]

/-- Reads a constraint. -/
def Constraint.ofJson? (v : Json) : Option (Constraint Float) := do
  match ← v.record? ["name", "coefficients", "op", "rhs"] with
  | [name, coefficients, relation, rhs] =>
    return { name := ← Json.required? Json.text? name
             coefficients := ← Json.required? (Json.list? Json.float?) coefficients
             relation := ← Json.required? Relation.ofJson? relation
             rhs := ← Json.required? Json.float? rhs }
  | _ => none

/-- A problem in JSON. -/
def Problem.toJson (p : Problem Float) : Json :=
  .ofFields [("variables", .ofTexts p.names), ("objective", p.objective.toJson),
    ("constraints", .array (p.constraints.map Constraint.toJson))]

/-- Reads a problem. -/
def Problem.ofJson? (v : Json) : Option (Problem Float) := do
  match ← v.record? ["variables", "objective", "constraints"] with
  | [names, objective, constraints] =>
    return { names := ← Json.required? (Json.list? Json.text?) names
             objective := ← Json.required? Objective.ofJson? objective
             constraints := ← Json.required? (Json.list? Constraint.ofJson?) constraints }
  | _ => none

/-- The JSON text of a problem. -/
def Problem.jsonText (p : Problem Float) : String := p.toJson.compactText

/-- Reads a problem from JSON text. -/
def Problem.ofJsonText? (s : String) : Option (Problem Float) := do
  Problem.ofJson? (← Json.parse? s)

end LinearProgram

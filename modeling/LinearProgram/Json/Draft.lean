import LinearProgram.Draft
import LinearProgram.Json.Problem

/-!
# Drafts in JSON

A draft is read from a record in which only the objective is required.  Single
values may be `null`; the lists of constraints and coefficients may be left out,
but not be `null`.
-/

namespace LinearProgram

/-- Numbers of which some may be `null`. -/
def Json.gappedFloats? : Json → Option (List (Option Float)) :=
  Json.list? (Json.nullable? Json.float?)

/-- Reads a constraint of a draft. -/
def DraftConstraint.ofJson? (v : Json) : Option (DraftConstraint Float) := do
  match ← v.record? ["name", "coefficients", "op", "rhs"] with
  | [name, coefficients, relation, rhs] =>
    return { name := ← Json.defaulted? (Json.nullable? Json.text?) none name
             coefficients := ← Json.defaulted? Json.gappedFloats? [] coefficients
             relation := ← Json.defaulted? (Json.nullable? Json.text?) none relation
             rhs := ← Json.defaulted? (Json.nullable? Json.float?) none rhs }
  | _ => none

/-- Reads a draft. -/
def Draft.ofJson? (v : Json) : Option (Draft Float) := do
  match ← v.record? ["sense", "variables", "objective", "constraints"] with
  | [sense, names, objective, constraints] =>
    return { sense := ← Json.defaulted? (Json.nullable? Sense.ofJson?) none sense
             names :=
               ← Json.defaulted? (Json.nullable? (Json.list? Json.text?)) none names
             objective := ← Json.required? Json.gappedFloats? objective
             constraints := ← Json.defaulted? (Json.list? DraftConstraint.ofJson?) [] constraints }
  | _ => none

/-- Reads a draft from JSON text. -/
def Draft.ofJsonText? (s : String) : Option (Draft Float) := do
  Draft.ofJson? (← Json.parse? s)

end LinearProgram

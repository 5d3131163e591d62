import LinearProgram.Relation
import LinearProgram.Scalar

/-!
# Linear programs

A linear program asks for the best value of a linear form over the non-negative
points that satisfy a list of linear constraints.  `Problem` holds what its
author wrote, in the author's order and without checks: lengths may disagree and
names may clash.  `LinearProgram.Problem.Fault` says which problems are sound.
-/

namespace LinearProgram

/-- Whether the objective is to be made large or small. -/
inductive Sense : Type where
  | maximize
  | minimize
deriving DecidableEq

/-- The linear form to be optimised. -/
structure Objective (α : Type) : Type where
  /-- One coefficient for each variable. -/
  coefficients : List α
  sense : Sense

/-- A bound on a linear form in the variables. -/
structure Constraint (α : Type) : Type where
  /-- Used in messages only. -/
  name : String
  /-- One coefficient for each variable. -/
  coefficients : List α
  relation : Relation
  rhs : α

/-- A linear program over non-negative variables. -/
structure Problem (α : Type) : Type where
  names : List String
  objective : Objective α
  constraints : List (Constraint α)

/-- The conventional name of the variable at a position: `x1`, `x2`, and so on. -/
def defaultVariableName (index : Nat) : String :=
  "x" ++ toString (index + 1)

/-- The conventional name of the constraint at a position: `c1`, `c2`, and so on. -/
def defaultConstraintName (index : Nat) : String :=
  "c" ++ toString (index + 1)

/-- The first so many conventional variable names. -/
def defaultVariableNames (count : Nat) : List String :=
  (List.range count).map defaultVariableName

namespace Problem

variable {α : Type}

/-- Maximise nothing over the given variables, without constraints. -/
def ofVariables [Scalar α] (names : List String) : Problem α :=
  { names, objective := ⟨names.map fun _ => 0, .maximize⟩, constraints := [] }

/-- Optimise a linear form over variables with conventional names, without constraints. -/
def ofObjective (coefficients : List α) (sense : Sense) : Problem α :=
  { names := defaultVariableNames coefficients.length
    objective := ⟨coefficients, sense⟩
    constraints := [] }

/-- The problem with another objective.  The variables keep their names. -/
def setObjective (p : Problem α) (coefficients : List α) (sense : Sense) : Problem α :=
  { p with objective := ⟨coefficients, sense⟩ }

/-- The problem with other names for its variables. -/
def setNames (p : Problem α) (names : List String) : Problem α :=
  { p with names }

/-- The problem with one more constraint, the last one. -/
def addConstraint (p : Problem α) (c : Constraint α) : Problem α :=
  { p with constraints := p.constraints ++ [c] }

/-- The problem with one more constraint, which gets the conventional name of its position. -/
def subjectTo (p : Problem α) (coefficients : List α) (relation : Relation) (rhs : α) :
    Problem α :=
  p.addConstraint ⟨defaultConstraintName p.constraints.length, coefficients, relation, rhs⟩

/-- The problem without the constraint at a position; unchanged when there is none. -/
def removeConstraint (p : Problem α) (index : Nat) : Problem α :=
  { p with constraints := p.constraints.eraseIdx index }

/-- The number of variables, as counted by the objective. -/
def variableCount (p : Problem α) : Nat := p.objective.coefficients.length

def constraintCount (p : Problem α) : Nat := p.constraints.length

end Problem

end LinearProgram

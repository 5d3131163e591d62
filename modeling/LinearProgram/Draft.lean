import LinearProgram.Problem
import LinearProgram.Report.Journal

/-!
# Drafts of problems

A draft is a problem written by hand in which things may be missing.  Reading it
fills the gaps: a missing sense is to maximise, a missing number is zero, a
missing relation is an upper bound, and missing names are the conventional ones.
Nothing else is changed, and lengths are not checked.

A draft is read in one pass, from its sense to its last constraint.  Every gap but
a missing name is warned about when the pass comes upon it.  Only a text that
spells no relation makes the reading fail, and nothing is read or told after it.
-/

namespace LinearProgram

/-- A constraint in which things may be missing. -/
structure DraftConstraint (α : Type) : Type where
  name : Option String
  coefficients : List (Option α)
  /-- A spelling of a relation. -/
  relation : Option String
  rhs : Option α

/-- A problem in which things may be missing. -/
structure Draft (α : Type) : Type where
  sense : Option Sense
  names : Option (List String)
  objective : List (Option α)
  constraints : List (DraftConstraint α)

/-- Something that is missing.  Positions of coefficients are counted from one. -/
inductive Gap : Type where
  | sense
  | objective (position : Nat)
  | relation (constraint : String)
  | coefficient (position : Nat) (constraint : String)
  | rhs (constraint : String)
deriving DecidableEq

/-! ## Warnings -/

/-- Under which name the reader of drafts speaks. -/
def draftSpeaker : String := "simplex::input"

/-- The warning about a number that is missing. -/
def missingValue (location : String) : LogEntry :=
  ⟨.warn, draftSpeaker, "missing value defaulted to 0", [("location", location)]⟩

/-- The warning about a gap. -/
def Gap.log : Gap → LogEntry
  | sense => ⟨.warn, draftSpeaker, "objective sense missing, defaulting to maximize", []⟩
  | objective position => missingValue ("objective coefficient " ++ toString position)
  | relation constraint =>
    ⟨.warn, draftSpeaker, "operator missing, defaulting to <=", [("constraint", constraint)]⟩
  | coefficient position constraint =>
    missingValue ("coefficient " ++ toString position ++ " of constraint " ++ constraint)
  | rhs constraint => missingValue ("right-hand side of constraint " ++ constraint)

/-! ## Reading in one pass -/

/-- A reading that tells warnings and may come upon an unknown relation. -/
abbrev Telling := ExceptT UnknownRelation (StateM (List LogEntry))

/-- Tells one entry. -/
def tell (entry : LogEntry) : Telling Unit :=
  modify (· ++ [entry])

/-- A value, or a default with a warning where it is missing. -/
def orDefault {β : Type} (default : β) (gap : Gap) : Option β → Telling β
  | some x => pure x
  | none => do
    tell gap.log
    return default

variable {α : Type} [Scalar α]

/-- Numbers from left to right, with zeros and warnings where they are missing. -/
def readNumbers (gap : Nat → Gap) (numbers : List (Option α)) : Telling (List α) :=
  numbers.zipIdx.mapM fun (x, j) => orDefault 0 (gap (j + 1)) x

namespace DraftConstraint

/-- The name of the constraint, or the conventional one of its position. -/
def nameAt (index : Nat) (c : DraftConstraint α) : String :=
  c.name.getD (defaultConstraintName index)

/-- Reads the relation of a constraint at a position. -/
def tellRelation (index : Nat) (c : DraftConstraint α) : Telling Relation :=
  match c.relation with
  | some text => ExceptT.mk (pure (Relation.parse text))
  | none => orDefault .le (.relation (c.nameAt index)) none

/-- Reads a constraint at a position: its relation, its coefficients, its right-hand side. -/
def read (index : Nat) (c : DraftConstraint α) : Telling (Constraint α) := do
  let relation ← c.tellRelation index
  let coefficients ← readNumbers (.coefficient · (c.nameAt index)) c.coefficients
  let rhs ← orDefault 0 (.rhs (c.nameAt index)) c.rhs
  return ⟨c.nameAt index, coefficients, relation, rhs⟩

/-- The draft of a constraint, in which nothing is missing. -/
def ofConstraint (c : Constraint α) : DraftConstraint α :=
  ⟨some c.name, c.coefficients.map some, some c.relation.symbol, some c.rhs⟩

end DraftConstraint

namespace Draft

/-- Reads a draft: its sense, its objective, and its constraints one after the other. -/
def read (d : Draft α) : Telling (Problem α) := do
  let sense ← orDefault .maximize .sense d.sense
  let coefficients ← readNumbers .objective d.objective
  let names := d.names.getD (defaultVariableNames coefficients.length)
  d.constraints.zipIdx.foldlM (fun p (c, i) => do return p.addConstraint (← c.read i))
    ((Problem.ofVariables names).setObjective coefficients sense)

/-- The problem with all gaps filled. -/
def complete (d : Draft α) : Except UnknownRelation (Problem α) := (d.read.run.run []).1

/-- The draft of a problem, in which nothing is missing. -/
def ofProblem (p : Problem α) : Draft α :=
  { sense := some p.objective.sense
    names := some p.names
    objective := p.objective.coefficients.map some
    constraints := p.constraints.map DraftConstraint.ofConstraint }

end Draft

end LinearProgram

import LinearProgram.Problem

/-!
# Faults of a problem

A problem is sound when its lengths agree, its variables have distinct names
that no tableau column will be given, and its numbers are finite.  The method
of one phase moreover needs every constraint to be an upper bound that is not
negative, because it starts from the point zero.

`Problem.validate` looks at the parts of a problem in a fixed order and stops at
the first fault.
-/

namespace LinearProgram

/-- A list of a problem whose length must be the number of variables. -/
inductive Part : Type where
  | variableNames
  | constraint (name : String)
deriving DecidableEq

/-- Where a number stands in a problem. -/
inductive Location : Type where
  | objective (var : String)
  | coefficient (var : String) (constraint : String)
  | rhs (constraint : String)
deriving DecidableEq

/-- Why a problem is refused. -/
inductive Fault (α : Type) : Type where
  | noVariables
  | dimensionMismatch (part : Part) (expected found : Nat)
  | duplicateVariable (name : String)
  | reservedName (name : String)
  | nonFinite (location : Location) (value : α)
  | unsupportedRelation (constraint : String) (relation : Relation)
  | negativeRhs (constraint : String) (rhs : α)

/-- How a message calls a list of a problem. -/
def Part.describe : Part → String
  | variableNames => "variable names"
  | constraint name => "constraint " ++ name

/-- How a message calls the place of a number. -/
def Location.describe : Location → String
  | objective var => "objective coefficient of " ++ var
  | coefficient var constraint =>
    "coefficient of " ++ var ++ " in constraint " ++ constraint
  | rhs constraint => "right-hand side of constraint " ++ constraint

/-- What is said about a fault, given the text of a number. -/
def Fault.message {α : Type} (number : α → String) : Fault α → String
  | noVariables => "invalid problem: objective has no variables"
  | dimensionMismatch part expected found =>
    "invalid problem: " ++ part.describe ++ " has " ++ toString found ++ " entries, expected " ++
      toString expected
  | duplicateVariable name =>
    "invalid problem: variable name " ++ name ++ " is used more than once"
  | reservedName name =>
    "invalid problem: variable name " ++ name ++ " clashes with a generated tableau label"
  | nonFinite location value =>
    "invalid problem: " ++ location.describe ++ " is not a finite number (" ++ number value ++ ")"
  | unsupportedRelation constraint relation =>
    "invalid problem: constraint " ++ constraint ++ " uses unsupported operator " ++
      relation.symbol ++ " (enable two-phase to solve it)"
  | negativeRhs constraint rhs =>
    "invalid problem: negative resource limit requires infeasibility handling not supported " ++
      "(constraint " ++ constraint ++ " has rhs " ++ number rhs ++ ")"

/-- Label of the objective row and of the column that marks it. -/
def objectiveLabel : String := "Z"

/-- Label of the column of right-hand sides. -/
def rhsLabel : String := "RHS"

/-- Whether a name has the shape of a label that the tableau gives to its own columns:
`s` or `a` followed by decimal digits, or one of the two fixed labels. -/
def isReservedName (name : String) : Bool :=
  name == objectiveLabel || name == rhsLabel ||
    match name.toList with
    | c :: index => (c == 's' || c == 'a') && !index.isEmpty && index.all Char.isDigit
    | [] => false

namespace Problem

variable {α : Type} [Scalar α]

/-- Looks at the names from left to right, given those that stand before them. -/
def checkNames (earlier : List String) : List String → Except (Fault α) Unit
  | [] => .ok ()
  | name :: rest =>
    if isReservedName name then .error (.reservedName name)
    else if name ∈ earlier then .error (.duplicateVariable name)
    else checkNames (name :: earlier) rest

/-- Looks at numbers from left to right, each with the variable that it belongs to. -/
def checkFinite (location : String → Location) : List (String × α) → Except (Fault α) Unit
  | [] => .ok ()
  | (var, value) :: rest =>
    if Scalar.isFinite value then checkFinite location rest
    else .error (.nonFinite (location var) value)

/-- Whether the method of one phase can start from a constraint. -/
def checkOnePhase (c : Constraint α) : Except (Fault α) Unit :=
  if c.relation ≠ .le then .error (.unsupportedRelation c.name c.relation)
  else if c.rhs < 0 then .error (.negativeRhs c.name c.rhs)
  else .ok ()

/-- Looks at one constraint: its length, its coefficients, its right-hand side, and, for the
method of one phase, its relation and sign. -/
def checkConstraint (twoPhase : Bool) (names : List String) (c : Constraint α) :
    Except (Fault α) Unit := do
  if c.coefficients.length ≠ names.length then
    throw (.dimensionMismatch (.constraint c.name) names.length c.coefficients.length)
  checkFinite (.coefficient · c.name) (names.zip c.coefficients)
  if !Scalar.isFinite c.rhs then
    throw (.nonFinite (.rhs c.name) c.rhs)
  if !twoPhase then
    checkOnePhase c

/-- Looks at the constraints in their order. -/
def checkConstraints (twoPhase : Bool) (names : List String) :
    List (Constraint α) → Except (Fault α) Unit
  | [] => .ok ()
  | c :: rest => do
    checkConstraint twoPhase names c
    checkConstraints twoPhase names rest

/-- Accepts a sound problem and names the first fault of any other.  Without `twoPhase`, every
constraint must be an upper bound that is not negative. -/
def validate (p : Problem α) (twoPhase : Bool) : Except (Fault α) Unit := do
  if p.variableCount = 0 then
    throw .noVariables
  if p.names.length ≠ p.variableCount then
    throw (.dimensionMismatch .variableNames p.variableCount p.names.length)
  checkNames [] p.names
  checkFinite .objective (p.names.zip p.objective.coefficients)
  checkConstraints twoPhase p.names p.constraints

end Problem

end LinearProgram

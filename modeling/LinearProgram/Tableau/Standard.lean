import LinearProgram.Tableau.Basic

/-!
# The starting tableau of a problem

Every constraint becomes an equation with a right-hand side that is not
negative; constraints with a negative one are multiplied by `-1` first.  An upper
bound gets a slack variable, which starts basic.  A lower bound gets a surplus
variable and an artificial one, an equation an artificial one; there the
artificial variable starts basic.  The objective row says that the objective,
with its sign turned for minimisation, is what the marked column stands for.
-/

namespace LinearProgram

variable {α : Type} [Scalar α]

/-- The same constraint with a right-hand side that is not negative. -/
def Constraint.normalize (c : Constraint α) : Constraint α :=
  if c.rhs < 0 then
    { c with coefficients := c.coefficients.map (- ·), relation := c.relation.flip, rhs := -c.rhs }
  else c

/-- A row of zeros. -/
def zeros (count : Nat) : List α := List.replicate count 0

/-- A row of zeros but for one value. -/
def single (count position : Nat) (x : α) : List α := (zeros count).set position x

namespace Problem

/-- The columns of the starting tableau. -/
def layout (p : Problem α) : Layout :=
  let relations := p.constraints.map fun c => c.normalize.relation
  { names := p.names
    slacks := relations.countP (· ≠ .eq)
    artificials := relations.countP (· ≠ .le) }

end Problem

namespace Tableau

/-- Equations for constraints with right-hand sides that are not negative, given how many slack
and artificial columns the constraints before them use. -/
def startRows (l : Layout) (slack artificial : Nat) : List (Constraint α) → List (BasicRow α)
  | [] => []
  | c :: rest =>
    match c.relation with
    | .le =>
      ⟨l.slackColumn slack,
        ⟨c.coefficients ++ single l.slacks slack 1 ++ zeros l.artificials, 0, c.rhs⟩⟩ ::
      startRows l (slack + 1) artificial rest
    | .ge =>
      ⟨l.artificialColumn artificial,
        ⟨c.coefficients ++ single l.slacks slack (-1) ++ single l.artificials artificial 1,
          0, c.rhs⟩⟩ ::
      startRows l (slack + 1) (artificial + 1) rest
    | .eq =>
      ⟨l.artificialColumn artificial,
        ⟨c.coefficients ++ zeros l.slacks ++ single l.artificials artificial 1, 0, c.rhs⟩⟩ ::
      startRows l slack (artificial + 1) rest

/-- The objective row in which the marked column stands for the value to be made large. -/
def startObjective (l : Layout) (o : Objective α) : Row α :=
  let costs := match o.sense with
    | .maximize => o.coefficients.map (- ·)
    | .minimize => o.coefficients
  ⟨costs ++ zeros l.slacks ++ zeros l.artificials, 1, 0⟩

/-- The starting tableau of a sound problem. -/
def ofProblem (p : Problem α) : Tableau α :=
  { layout := p.layout
    rows := startRows p.layout 0 0 (p.constraints.map Constraint.normalize)
    objective := startObjective p.layout p.objective }

end Tableau

/-- The starting tableau of a problem, or the first fault of the problem. -/
def Problem.tableau (p : Problem α) (twoPhase : Bool) : Except (Fault α) (Tableau α) := do
  p.validate twoPhase
  return Tableau.ofProblem p

end LinearProgram

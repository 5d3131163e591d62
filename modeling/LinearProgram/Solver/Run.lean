import LinearProgram.Solver.Step
import LinearProgram.Tableau.Pivot

/-!
# Solving

`Solver.solve` improves the starting tableau of a problem by pivots until no
column can enter, no row can leave, or the budget is spent.

A starting tableau with artificial variables is treated in two phases that share
one budget.  The first maximises minus the sum of the artificial variables.  If
some sum remains, the problem has no feasible point.  Otherwise the artificial
variables are driven out of the basis where their row has an entry in a real
column, and the second phase starts with the problem's objective.

The run is written as a function of the budget that is left, so it ends whatever
the arithmetic does.
-/

namespace LinearProgram

/-- The number of pivots allowed when nothing else is said. -/
def defaultMaxIterations : Nat := 10

/-- Settings of a solve. -/
structure Solver (α : Type) : Type where
  /-- The number of pivots allowed. -/
  maxIterations : Nat
  /-- Magnitude below which a reported value counts as zero. -/
  tolerance : α
  /-- Whether lower bounds, equations and negative right-hand sides are accepted. -/
  twoPhase : Bool

/-- What happened from some tableau on. -/
structure Trail (α : Type) : Type where
  moments : List (Moment α)
  /-- The tableau at the end. -/
  tableau : Tableau α
  /-- Number of pivots chosen by the two rules, also before the trail began. -/
  iterations : Nat
  /-- The stage in which the end was reached. -/
  stage : Stage
  verdict : Verdict α

/-- The trail with moments before it. -/
def Trail.after {α : Type} (moments : List (Moment α)) (t : Trail α) : Trail α :=
  { t with moments := moments ++ t.moments }

variable {α : Type} [Scalar α]

namespace Tableau

/-- The description of a pivot of a tableau. -/
def pivotAt (t : Tableau α) (iteration row column : Nat) : Pivot α :=
  { iteration, row, column
    element := t.entry row column
    entering := t.layout.label column
    leaving := ((t.basicColumn row).map t.layout.label).getD "" }

/-- Pivots until no column can enter, no row can leave, or the budget is spent.  The last
permitted pivot may itself have reached the optimum. -/
def improve (stage : Stage) : (budget : Nat) → (iterations : Nat) → Tableau α → Trail α
  | 0, iterations, t =>
    match t.enteringColumn (stage == .first) with
    | none => ⟨[], t, iterations, stage, .optimal⟩
    | some _ => ⟨[], t, iterations, stage, .limitReached⟩
  | budget + 1, iterations, t =>
    match t.enteringColumn (stage == .first) with
    | none => ⟨[], t, iterations, stage, .optimal⟩
    | some column =>
      match t.leavingRow column with
      | none => ⟨[], t, iterations, stage, .unbounded column⟩
      | some row =>
        (improve stage budget (iterations + 1) (t.pivot row column)).after
          [⟨.pivot stage (t.pivotAt (iterations + 1) row column), t⟩]

/-- The real column to exchange for an artificial variable that is basic in a row: the first with
an entry above the tolerance, or else the first with an entry of such a magnitude.  There is none
for a row that is redundant, and none is asked for in a row with a real basic variable. -/
def driveOutColumn (tolerance : α) (t : Tableau α) (row : Nat) : Option Nat :=
  match t.rows[row]? with
  | none => none
  | some r =>
    if t.layout.isArtificial r.basic then
      let cells := r.row.cells.take t.layout.realCount
      (cells.findIdx? fun x => decide (tolerance < x)) <|>
        cells.findIdx? fun x => decide (tolerance < Scalar.abs x)
    else none

/-- Exchanges artificial variables for real ones, in the given rows from the first to the last.
The first phase left these variables within tolerance of zero, so each is set to zero before it
leaves. -/
def driveOut (tolerance : α) (iterations : Nat) :
    List Nat → Tableau α → List (Moment α) × Tableau α
  | [], t => ([], t)
  | row :: rest, t =>
    match driveOutColumn tolerance t row with
    | none => driveOut tolerance iterations rest t
    | some column =>
      let (moments, last) := driveOut tolerance iterations rest ((t.clearRhs row).pivot row column)
      (⟨.driveOut (t.pivotAt iterations row column), t⟩ :: moments, last)

/-- The tableau whose objective is minus the sum of the artificial variables. -/
def priceArtificials (t : Tableau α) : Tableau α :=
  t.loadObjective (artificialCosts t.layout)

/-- The size of a problem's right-hand sides: the largest magnitude, but at least one. -/
def rhsScale (t : Tableau α) : α :=
  t.rows.foldl (fun m r => Scalar.max m (Scalar.abs r.row.rhs)) 1

end Tableau

namespace Solver

/-- Ten pivots, values below one in a thousand millions count as zero, one phase. -/
def default : Solver α := ⟨defaultMaxIterations, 1e-9, false⟩

/-- A value as it is reported: zero if it is within the tolerance. -/
def clean (s : Solver α) (x : α) : α := if Scalar.abs x < s.tolerance then 0 else x

/-- The second phase, from the tableau that the first one ended with. -/
def secondPhase (s : Solver α) (costs : List α) (iterations : Nat) (t : Tableau α) : Trail α :=
  let (moments, driven) := t.driveOut s.tolerance iterations (List.range t.constraintCount)
  let restored := driven.loadObjective costs
  (restored.improve .second (s.maxIterations - iterations) iterations).after
    (moments ++ [⟨.restoreObjective, restored⟩])

/-- Both phases, from a starting tableau with artificial variables. -/
def bothPhases (s : Solver α) (t : Tableau α) : Trail α :=
  let priced := t.priceArtificials
  let first := priced.improve .first s.maxIterations 0
  let residual := -first.tableau.objective.rhs
  Trail.after [⟨.priceArtificials, priced⟩] <|
    match first.verdict with
    | .limitReached => first
    | _ =>
      if s.tolerance * t.rhsScale < residual then { first with verdict := .infeasible residual }
      else (s.secondPhase t.objective.cells first.iterations first.tableau).after first.moments

/-- Everything that happens from a starting tableau on. -/
def trail (s : Solver α) (t : Tableau α) : Trail α :=
  Trail.after [⟨.start, t⟩] <|
    if t.layout.artificials = 0 then t.improve .only s.maxIterations 0 else s.bothPhases t

/-- The values of the decision variables in the basic solution of a tableau. -/
def values (s : Solver α) (p : Problem α) (t : Tableau α) : List α :=
  (List.range p.variableCount).map fun j => ((t.basicLevel j).map s.clean).getD 0

/-- The sum of the products of coefficients and values, added from left to right. -/
def weightedSum (coefficients values : List α) : α :=
  (List.zipWith (· * ·) coefficients values).foldl (· + ·) (-0)

/-- The objective at the end of a trail.  It is the better infinity of an unbounded problem and
the worse one of an infeasible problem.  After a first phase that ran out of budget the objective
row still holds the sum of the artificial variables, so the values are summed up instead. -/
def objective (s : Solver α) (p : Problem α) (t : Trail α) : Extended α :=
  match t.verdict, p.objective.sense with
  | .unbounded _, .maximize | .infeasible _, .minimize => .posInfinity
  | .unbounded _, .minimize | .infeasible _, .maximize => .negInfinity
  | _, sense =>
    .finite <| s.clean <|
      if t.stage = .first then weightedSum p.objective.coefficients (s.values p t.tableau)
      else match sense with
        | .maximize => t.tableau.objective.rhs
        | .minimize => -t.tableau.objective.rhs

/-- The solution at the end of a trail. -/
def solution (s : Solver α) (p : Problem α) (t : Trail α) : Solution α :=
  { status := t.verdict.status
    values := s.values p t.tableau
    objective := s.objective p t
    iterations := t.iterations }

/-- The report on a trail: its moments, then the end. -/
def report (s : Solver α) (p : Problem α) (t : Trail α) : Report α :=
  let solution := s.solution p t
  ⟨solution, Step.ofMoments (t.moments ++ [⟨.finish t.verdict solution, t.tableau⟩])⟩

/-- Solves a problem and records every step.  Only an unsound problem is an error; the other
outcomes are statuses of the solution. -/
def solve (s : Solver α) (p : Problem α) : Except (Fault α) (Report α) := do
  let t ← p.tableau s.twoPhase
  return s.report p (s.trail t)

end Solver

end LinearProgram

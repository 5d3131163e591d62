import LinearProgram.Proofs.Sheet.Access

/-!
# Solving on sheets

The whole way from a problem to its report, on sheets: validation, which looks
up the names of variables for its messages, the starting sheet, which is filled
entry by entry, the loop, which counts its pivots up to the budget, both phases,
and the report.  A step of it fails if an access to a sheet or a list does, or
if the counter of pivots cannot be raised.
-/

namespace LinearProgram

variable {α : Type} [Scalar α]

/-! ## Validation -/

namespace Problem

/-- Looks at numbers from left to right, and for a message looks up the variable at the same
position. -/
def checkFinite? (names : List String) (location : String → Location) :
    Nat → List α → ExceptT (Fault α) Option Unit
  | _, [] => pure ()
  | j, x :: rest =>
    if Scalar.isFinite x then checkFinite? names location (j + 1) rest
    else do
      let name ← liftM names[j]?
      throw (.nonFinite (location name) x)

def checkConstraint? (twoPhase : Bool) (names : List String) (count : Nat) (c : Constraint α) :
    ExceptT (Fault α) Option Unit := do
  if c.coefficients.length ≠ count then
    throw (.dimensionMismatch (.constraint c.name) count c.coefficients.length)
  checkFinite? names (.coefficient · c.name) 0 c.coefficients
  if !Scalar.isFinite c.rhs then
    throw (.nonFinite (.rhs c.name) c.rhs)
  if !twoPhase then
    ExceptT.mk (some (checkOnePhase c))

def checkConstraints? (twoPhase : Bool) (names : List String) (count : Nat) :
    List (Constraint α) → ExceptT (Fault α) Option Unit
  | [] => pure ()
  | c :: rest => do
    checkConstraint? twoPhase names count c
    checkConstraints? twoPhase names count rest

def validate? (p : Problem α) (twoPhase : Bool) : ExceptT (Fault α) Option Unit := do
  if p.variableCount = 0 then
    throw .noVariables
  if p.names.length ≠ p.variableCount then
    throw (.dimensionMismatch .variableNames p.variableCount p.names.length)
  ExceptT.mk (some (checkNames [] p.names))
  checkFinite? p.names .objective 0 p.objective.coefficients
  checkConstraints? twoPhase p.names p.variableCount p.constraints

end Problem

namespace Sheet

/-! ## The starting sheet -/

/-- A sheet that is being filled, with the slack and artificial columns that come next. -/
structure Filling (α : Type) : Type where
  sheet : Sheet α
  slack : Nat
  artificial : Nat

/-- Writes one into a column of a row and makes the column basic there. -/
def start? (t : Sheet α) (row column : Nat) : Option (Sheet α) := do
  let written ← t.set? row column 1
  let name ← written.labels[column]?
  return { written with basis := written.basis ++ [name] }

/-- Fills in the row of a constraint. -/
def fillRow? (row : Nat) (c : Constraint α) (f : Filling α) : Option (Filling α) := do
  let blank ← f.sheet.data[row]?
  let cells ← copy? f.sheet.decisions c.coefficients blank
  let copied := f.sheet.setRow row cells
  let t ← copied.set? row (← copied.rhsColumn?) c.rhs
  match c.relation with
  | .le => return ⟨← t.start? row f.slack, f.slack + 1, f.artificial⟩
  | .ge =>
    let t ← t.set? row f.slack (-1)
    return ⟨← t.start? row f.artificial, f.slack + 1, f.artificial + 1⟩
  | .eq => return ⟨← t.start? row f.artificial, f.slack, f.artificial + 1⟩

/-- Fills in the rows of constraints, from a row on. -/
def fillRows? : (row : Nat) → List (Constraint α) → Filling α → Option (Filling α)
  | _, [], f => some f
  | row, c :: rest, f => do
    let next ← fillRow? row c f
    fillRows? (row + 1) rest next

/-- Fills in the objective row. -/
def fillObjective? (row : Nat) (o : Objective α) (t : Sheet α) : Option (Sheet α) := do
  let costs := match o.sense with
    | .maximize => o.coefficients.map (- ·)
    | .minimize => o.coefficients
  let written ← (List.range costs.length).foldlM
    (fun t j => do t.set? row j (← costs[j]?)) t
  written.set? row t.markColumn 1

/-- A sheet of zeros with the labels of a problem. -/
def blank (p : Problem α) : Sheet α :=
  { data := List.replicate (p.constraints.length + 1) (zeros p.layout.labels.length)
    labels := p.layout.labels
    decisions := p.variableCount
    slacks := p.layout.slacks
    artificials := p.layout.artificials
    basis := [] }

/-- The starting sheet of a problem, or the first fault of the problem. -/
def build? (p : Problem α) (twoPhase : Bool) : ExceptT (Fault α) Option (Sheet α) := do
  p.validate? twoPhase
  let empty : Sheet α := blank p
  let filled ← liftM (fillRows? 0 (p.constraints.map Constraint.normalize)
    ⟨empty, empty.decisions, empty.realCount⟩)
  let named : Sheet α := { filled.sheet with basis := filled.sheet.basis ++ [objectiveLabel] }
  liftM (named.fillObjective? p.constraints.length p.objective)

/-! ## The loop -/

/-- What happened from some sheet on. -/
structure Trail (α : Type) : Type where
  moments : List (Event α × Sheet α)
  sheet : Sheet α
  iterations : Nat
  stage : Stage
  verdict : Verdict α

def Trail.after (moments : List (Event α × Sheet α)) (t : Trail α) : Trail α :=
  { t with moments := moments ++ t.moments }

/-- The description of a pivot of a sheet. -/
def pivotAt? (t : Sheet α) (iteration row column : Nat) : Option (Pivot α) := do
  let element ← t.get? row column
  let entering ← t.labels[column]?
  return { iteration, row, column, element, entering, leaving := t.basis[row]?.getD "" }

/-- Pivots while the counter is below the budget. -/
def improve? (largest budget : Nat) (stage : Stage) (iterations : Nat) (t : Sheet α) :
    Option (Trail α) :=
  if iterations < budget then do
    match ← t.enteringColumn? (stage == .first) with
    | none => return ⟨[], t, iterations, stage, .optimal⟩
    | some column =>
      match ← t.leavingRow? column with
      | none => return ⟨[], t, iterations, stage, .unbounded column⟩
      | some row =>
        let count ← increment? largest iterations
        let pivot ← t.pivotAt? count row column
        let next ← t.pivot? row column
        let rest ← improve? largest budget stage (iterations + 1) next
        return rest.after [(.pivot stage pivot, t)]
  else do
    match ← t.enteringColumn? (stage == .first) with
    | none => return ⟨[], t, iterations, stage, .optimal⟩
    | some _ => return ⟨[], t, iterations, stage, .limitReached⟩
termination_by budget - iterations

/-! ## Between the phases -/

/-- The first column before a count whose entry in a row passes a test. -/
def find? (t : Sheet α) (row count : Nat) (test : α → Bool) : Option (Option Nat) :=
  (List.range count).findM? fun j => do return test (← t.get? row j)

/-- The real column to exchange for an artificial variable whose name is basic in a row. -/
def driveOutColumn? (tolerance : α) (t : Sheet α) (row : Nat) : Option (Option Nat) :=
  match t.basis[row]? with
  | none => some none
  | some name =>
    if (t.columnOf name).any t.isArtificial then do
      match ← t.find? row t.realCount fun x => decide (tolerance < x) with
      | some column => return some column
      | none => t.find? row t.realCount fun x => decide (tolerance < Scalar.abs x)
    else some none

def driveOut? (tolerance : α) (iterations : Nat) :
    List Nat → Sheet α → Option (List (Event α × Sheet α) × Sheet α)
  | [], t => some ([], t)
  | row :: rest, t => do
    match ← t.driveOutColumn? tolerance row with
    | none => driveOut? tolerance iterations rest t
    | some column =>
      let pivot ← t.pivotAt? iterations row column
      let cleared ← t.clearRhs? row
      let next ← cleared.pivot? row column
      let (moments, last) ← driveOut? tolerance iterations rest next
      return ((.driveOut pivot, t) :: moments, last)

/-- The largest magnitude of a right-hand side of a constraint row, but at least one. -/
def rhsScale? (t : Sheet α) : Option α := do
  let count ← t.objectiveRow?
  (List.range count).foldlM (fun m i => do return Scalar.max m (Scalar.abs (← t.rhs? i))) 1

/-- The costs under which minus the sum of the artificial variables is made large. -/
def artificialCosts (t : Sheet α) : List α :=
  (List.range t.markColumn).map fun j => if t.isArtificial j then 1 else 0

/-! ## Reports -/

structure Step (α : Type) : Type where
  number : Nat
  event : Event α
  sheet : Sheet α

structure Report (α : Type) : Type where
  solution : Solution α
  steps : List (Step α)

end Sheet

namespace Solver

open Sheet

variable (s : Solver α)

def secondPhase? (largest : Nat) (costs : List α) (iterations : Nat) (t : Sheet α) :
    Option (Sheet.Trail α) := do
  let count ← t.objectiveRow?
  let (moments, driven) ← t.driveOut? s.tolerance iterations (List.range count)
  let restored ← driven.loadObjective? costs
  let rest ← restored.improve? largest s.maxIterations .second iterations
  return rest.after (moments ++ [(.restoreObjective, restored)])

def bothPhases? (largest : Nat) (t : Sheet α) : Option (Sheet.Trail α) := do
  let row ← t.objectiveRow?
  let costs ← slice? t.markColumn (← t.data[row]?)
  let scale ← t.rhsScale?
  let priced ← t.loadObjective? t.artificialCosts
  let first ← priced.improve? largest s.maxIterations .first 0
  let residual := -(← first.sheet.rhs? row)
  let rest ← match first.verdict with
    | .limitReached => pure first
    | _ =>
      if s.tolerance * scale < residual then pure { first with verdict := .infeasible residual }
      else do
        let second ← s.secondPhase? largest costs first.iterations first.sheet
        pure (second.after first.moments)
  return rest.after [(.priceArtificials, priced)]

def trail? (largest : Nat) (t : Sheet α) : Option (Sheet.Trail α) := do
  let rest ← if t.artificials = 0 then t.improve? largest s.maxIterations .only 0
    else s.bothPhases? largest t
  return rest.after [(.start, t)]

def values? (p : Problem α) (t : Sheet α) : Option (List α) :=
  (List.range p.variableCount).mapM fun j => do
    let name ← t.labels[j]?
    match ← t.rowOf? name with
    | none => return 0
    | some row => return s.clean (← t.rhs? row)

def objective? (p : Problem α) (values : List α) (t : Sheet.Trail α) : Option (Extended α) := do
  let row ← t.sheet.objectiveRow?
  let level ← t.sheet.rhs? row
  match t.verdict, p.objective.sense with
  | .unbounded _, .maximize | .infeasible _, .minimize => return .posInfinity
  | .unbounded _, .minimize | .infeasible _, .maximize => return .negInfinity
  | _, sense =>
    return .finite <| s.clean <|
      if t.stage = .first then weightedSum p.objective.coefficients values
      else match sense with
        | .maximize => level
        | .minimize => -level

/-- The label that the description of a verdict mentions. -/
def verdictLabel? (t : Sheet α) : Verdict α → Option String
  | .unbounded column => t.labels[column]?
  | _ => some ""

def report? (p : Problem α) (t : Sheet.Trail α) : Option (Sheet.Report α) := do
  let values ← s.values? p t.sheet
  let objective ← s.objective? p values t
  let _ ← verdictLabel? t.sheet t.verdict
  let solution := ⟨t.verdict.status, values, objective, t.iterations⟩
  let moments := t.moments ++ [(.finish t.verdict solution, t.sheet)]
  return ⟨solution, moments.mapIdx fun i m => ⟨i + 1, m.1, m.2⟩⟩

/-- Solves a problem on sheets.  Without a fault of the problem there is a report, or an access
that failed. -/
def solve? (largest : Nat) (p : Problem α) : ExceptT (Fault α) Option (Sheet.Report α) := do
  let t ← build? p s.twoPhase
  liftM (do s.report? p (← s.trail? largest t))

end Solver

end LinearProgram

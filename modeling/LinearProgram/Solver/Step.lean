import LinearProgram.Tableau.Standard

/-!
# What a solve reports

A solve ends with a verdict, from which the solution is read.  On the way it
records a step for the starting tableau, for every pivot, for every exchange of
the objective row, and for the end.  A step holds what is about to happen and
the tableau in which it happens, so the steps can be replayed: the tableau of
the next step is the one of this step with the event carried out.
-/

namespace LinearProgram

/-- A value, or one of the two infinities. -/
inductive Extended (α : Type) : Type where
  | finite (value : α)
  | posInfinity
  | negInfinity
deriving DecidableEq

/-- The four ways in which a solve can end, as they are reported. -/
inductive Status : Type where
  /-- No point has a better objective. -/
  | optimal
  /-- The objective can be improved without limit. -/
  | unbounded
  /-- No point satisfies all constraints. -/
  | infeasible
  /-- The budget of pivots ran out first. -/
  | iterationLimitReached
deriving DecidableEq

/-- The word for a status. -/
def Status.word : Status → String
  | optimal => "optimal"
  | unbounded => "unbounded"
  | infeasible => "infeasible"
  | iterationLimitReached => "iteration-limit-reached"

/-- All statuses. -/
def Status.all : List Status := [.optimal, .unbounded, .infeasible, .iterationLimitReached]

/-- The status with a word. -/
def Status.ofWord? (word : String) : Option Status := Status.all.find? (·.word == word)

/-- How a solve ended, with the evidence. -/
inductive Verdict (α : Type) : Type where
  | optimal
  /-- The variable of this column can grow without limit. -/
  | unbounded (column : Nat)
  /-- The artificial variables cannot sum to less than this. -/
  | infeasible (residual : α)
  | limitReached
deriving DecidableEq

/-- The status that a verdict is reported as. -/
def Verdict.status {α : Type} : Verdict α → Status
  | optimal => .optimal
  | unbounded _ => .unbounded
  | infeasible _ => .infeasible
  | limitReached => .iterationLimitReached

/-- The answer to a linear program. -/
structure Solution (α : Type) : Type where
  status : Status
  /-- The value of each decision variable. -/
  values : List α
  objective : Extended α
  /-- Number of pivots that the two rules chose. -/
  iterations : Nat
deriving DecidableEq

/-- Whether a solution is known to be the best one. -/
def Solution.isOptimal {α : Type} (s : Solution α) : Bool := s.status == .optimal

/-- A pivot about to be carried out. -/
structure Pivot (α : Type) : Type where
  /-- Number of pivots that the two rules chose so far, this one included. -/
  iteration : Nat
  row : Nat
  column : Nat
  /-- The entry in that row and column. -/
  element : α
  /-- Name of the variable that becomes basic. -/
  entering : String
  /-- Name of the variable that stops being basic. -/
  leaving : String
deriving DecidableEq

/-- Which objective a run of pivots improves. -/
inductive Stage : Type where
  /-- The problem's objective, when no artificial variables are needed. -/
  | only
  /-- Minus the sum of the artificial variables. -/
  | first
  /-- The problem's objective, after the artificial variables have been brought to zero. -/
  | second
deriving DecidableEq

/-- What is about to happen in a tableau. -/
inductive Event (α : Type) : Type where
  /-- The starting tableau was set up. -/
  | start
  /-- The objective row was replaced by minus the sum of the artificial variables. -/
  | priceArtificials
  /-- A pivot that the two rules chose. -/
  | pivot (stage : Stage) (pivot : Pivot α)
  /-- An artificial variable at level zero is exchanged for a real one. -/
  | driveOut (pivot : Pivot α)
  /-- The objective row was replaced by the problem's objective. -/
  | restoreObjective
  /-- Nothing more. -/
  | finish (verdict : Verdict α) (solution : Solution α)
deriving DecidableEq

/-- An event and the tableau in which it happens. -/
structure Moment (α : Type) : Type where
  event : Event α
  tableau : Tableau α

/-- A moment with its position, counted from one. -/
structure Step (α : Type) : Type where
  number : Nat
  event : Event α
  tableau : Tableau α

/-- Steps for moments, numbered from one. -/
def Step.ofMoments {α : Type} (moments : List (Moment α)) : List (Step α) :=
  moments.mapIdx fun i m => ⟨i + 1, m.event, m.tableau⟩

/-- The pivot of an event, if it is one. -/
def Event.pivot? {α : Type} : Event α → Option (Pivot α)
  | pivot _ p | driveOut p => some p
  | _ => none

/-- The solution that an event announces, if any. -/
def Event.solution? {α : Type} : Event α → Option (Solution α)
  | finish _ s => some s
  | _ => none

/-- The pivot about to be carried out at a step, if any. -/
def Step.pivot? {α : Type} (s : Step α) : Option (Pivot α) := s.event.pivot?

/-- The solution found at a step, if it is the last one. -/
def Step.solution? {α : Type} (s : Step α) : Option (Solution α) := s.event.solution?

/-- The outcome of a solve and all steps that led to it. -/
structure Report (α : Type) : Type where
  solution : Solution α
  steps : List (Step α)

/-- The step that holds the solution. -/
def Report.finalStep? {α : Type} (r : Report α) : Option (Step α) := r.steps.getLast?

/-- All pivots in their order. -/
def Report.pivots {α : Type} (r : Report α) : List (Pivot α) := r.steps.filterMap Step.pivot?

end LinearProgram

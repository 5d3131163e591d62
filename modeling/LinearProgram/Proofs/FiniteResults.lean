import LinearProgram.Proofs.Course
import LinearProgram.Proofs.FiniteRows
import LinearProgram.Proofs.FirstFault
import LinearProgram.Report.Narration

/-!
# Finite results

Validation only lets numbers in, but a run in floating point can overflow.  The
rules then go on comparing with infinities and with values that are no numbers,
and may call the result optimal.

An infinity is where this begins.  As long as no row that a run writes contains
one, its tableaux consist of numbers: the pivots it chooses are not zero, since
they lie above zero or above the tolerance.  Only the objective row of the first
phase is of no account, because it is replaced.

* `Transition.numbers`: one recorded moment, with all rows written there.
* `Solver.solve_finite`: a run that meets no infinity reports numbers.
* `Solver.solve_optimal_overwhelmingCost`: one that does may report an optimum
  that is no number.
-/

namespace LinearProgram

open FloatingPoint

/-! ## What a run writes -/

section Written

variable {α : Type} [Scalar α]

/-- The rows that are written when an event happens: those of its tableau, and those that come up
while the problem's own costs are loaded. -/
def Event.written (costs : List α) : Event α → Tableau α → List (Row α)
  | restoreObjective, t => t.loading costs ++ t.allRows
  | _, t => t.allRows

theorem Event.forall_allRows {costs : List α} {e : Event α} {t : Tableau α} {P : Row α → Prop}
    (all : ∀ row ∈ e.written costs t, P row) : (∀ r ∈ t.rows, P r.row) ∧ P t.objective := by
  have rows : ∀ row ∈ t.allRows, P row := by
    cases e with
    | restoreObjective => exact fun row mem => all row (List.mem_append_right _ mem)
    | start | priceArtificials | pivot _ _ | driveOut _ | finish _ _ => exact all
  unfold Tableau.allRows at rows
  rw [List.forall_mem_append, List.forall_mem_map, List.forall_mem_singleton] at rows
  exact rows

/-- The sums that come up while products of coefficients and values are added. -/
def Solver.partialSums (coefficients values : List α) : List α :=
  (List.zipWith (· * ·) coefficients values).scanl (· + ·) (-0)

end Written

/-- No infinity occurs in the rows that a run writes, nor, if it has run out of budget, in the sums
over its values. -/
structure Report.InRange (p : Problem Float) (r : Report Float) : Prop where
  rows : ∀ x ∈ r.steps,
    ∀ row ∈ x.event.written (Tableau.ofProblem p).objective.cells x.tableau, row.InRange
  sums : r.solution.status = .iterationLimitReached →
    ∀ x ∈ Solver.partialSums p.objective.coefficients r.solution.values, x.isInf = false

instance (p : Problem Float) (r : Report Float) : Decidable (r.InRange p) :=
  decidable_of_iff
    ((∀ x ∈ r.steps,
      ∀ row ∈ x.event.written (Tableau.ofProblem p).objective.cells x.tableau, row.InRange) ∧
    (r.solution.status = .iterationLimitReached →
      ∀ x ∈ Solver.partialSums p.objective.coefficients r.solution.values, x.isInf = false))
    ⟨fun ⟨rows, sums⟩ => ⟨rows, sums⟩, fun ⟨rows, sums⟩ => ⟨rows, sums⟩⟩

/-! ## One moment -/

/-- Whether the objective row is the problem's own. -/
def Control.hasOwnObjective : Control → Bool
  | opening | improving .only | improving .second => true
  | _ => false

/-- Where the tableau is in range it consists of numbers, but for an objective row of the first
phase. -/
def Configuration.Numbers (a : Configuration Float) : Prop :=
  (∀ r ∈ a.tableau.rows, r.row.InRange) →
    (∀ r ∈ a.tableau.rows, r.row.IsFinite) ∧
      (a.control.hasOwnObjective = true → a.tableau.objective.InRange →
        a.tableau.objective.IsFinite)

namespace Tableau

variable {t : Tableau Float} {i c : Nat}

/-- The pivot element that the leaving rule chooses is not zero. -/
theorem element_ne_zero_of_leavingRow (leaving : t.leavingRow c = some i) :
    ∀ r, t.rows[i]? = some r → (r.row.entry c == 0.0) = false := by
  intro r at_i
  obtain ⟨s, at_i', positive⟩ := zero_lt_entry_of_leavingRow leaving
  cases at_i.symm.trans at_i'
  exact ne_zero_of_lt (x := 0.0) (by decide) positive

/-- Nor is the one that an artificial variable is driven out with. -/
theorem element_ne_zero_of_driveOutColumn {tolerance : Float} (nonneg : ¬ tolerance < 0)
    (found : t.driveOutColumn tolerance i = some c) :
    ∀ r, (t.clearRhs i).rows[i]? = some r → (r.row.entry c == 0.0) = false := by
  intro r at_i
  obtain ⟨s, s_at, _, _, large⟩ := driveOutColumn_chosen found
  rw [clearRhs, List.getElem?_modify_eq, s_at] at at_i
  cases at_i
  change (s.row.entry c == 0.0) = false
  rcases large with large | large
  · exact ne_zero_of_lt nonneg large
  · unfold Scalar.abs at large
    split at large
    · next negative => exact ne_zero_of_lt_zero negative
    · exact ne_zero_of_lt nonneg large

end Tableau

variable {s : Solver Float} {start : Tableau Float} {a b : Configuration Float} {m : Moment Float}

/-- One transition keeps numbers, if no row written there contains an infinity. -/
theorem Transition.numbers (costs : ∀ x ∈ start.objective.cells, x.isFinite = true)
    (nonneg : ¬ s.tolerance < 0) (step : Transition s start a m b)
    (fits : ∀ row ∈ m.event.written start.objective.cells m.tableau, row.InRange)
    (kept : a.Numbers) : b.Numbers := by
  obtain ⟨rows_fit, objective_fits⟩ := Event.forall_allRows fits
  cases step with
  | start =>
    refine fun next => ⟨(kept next).1, fun _ => (kept next).2 rfl⟩
  | priceArtificials => exact fun next => ⟨(kept next).1, nofun⟩
  | @pivot stage t n c i _ _ leaving =>
    obtain ⟨rows, objective⟩ := kept rows_fit
    intro next
    obtain ⟨next_rows, next_objective⟩ :=
      Tableau.isFinite_pivot rows (Tableau.element_ne_zero_of_leavingRow leaving) next
    exact ⟨next_rows, fun own => next_objective (objective own objective_fits)⟩
  | driveOut _ found =>
    obtain ⟨rows, _⟩ := kept rows_fit
    intro next
    exact ⟨(Tableau.isFinite_pivot (Tableau.isFinite_clearRhs rows)
      (Tableau.element_ne_zero_of_driveOutColumn nonneg found) next).1, nofun⟩
  | restoreObjective =>
    obtain ⟨rows, _⟩ := kept rows_fit
    refine fun _ => ⟨rows, fun _ _ => Tableau.isFinite_loadObjective rows costs ?_⟩
    exact fun row mem => fits row (List.mem_append_left _ mem)
  | finish => exact fun next => ⟨(kept next).1, nofun⟩

/-! ## A whole run -/

namespace Solver

variable {p : Problem Float} {t : Tableau Float}

theorem isFinite_clean {x : Float} (number : x.isFinite = true) :
    (s.clean x).isFinite = true := by
  unfold clean
  split
  · exact isFinite_zero
  · exact number

theorem isFinite_values (rows : ∀ r ∈ t.rows, r.row.IsFinite) :
    ∀ x ∈ s.values p t, x.isFinite = true := by
  intro x mem
  obtain ⟨j, _, rfl⟩ := List.mem_map.mp mem
  cases level : t.basicLevel j with
  | none => exact isFinite_zero
  | some v =>
    obtain ⟨r, found, rfl⟩ := Option.map_eq_some_iff.mp level
    obtain ⟨_, _, rhs⟩ := Row.all_iff.mp (rows r (List.mem_of_find?_eq_some found))
    exact isFinite_clean rhs

theorem isFinite_weightedSum {coefficients values : List Float}
    (first : ∀ x ∈ coefficients, x.isFinite = true) (second : ∀ x ∈ values, x.isFinite = true)
    (fits : ∀ x ∈ partialSums coefficients values, x.isInf = false) :
    (weightedSum coefficients values).isFinite = true := by
  refine foldl_of_scanl (P := fun sum => sum.isFinite = true) ?_ (isFinite_neg isFinite_zero) fits
  intro sum x mem kept fit
  obtain ⟨c, c_mem, v, v_mem, rfl⟩ := exists_of_mem_zipWith mem
  exact isFinite_add_mul kept (first c c_mem) (second v v_mem) fit

/-- The tableau that a run ends with consists of numbers, but for an objective row of the first
phase. -/
theorem numbers_trail (valid : p.validate s.twoPhase = .ok ()) (nonneg : ¬ s.tolerance < 0)
    (inRange : (s.report p (s.trail (Tableau.ofProblem p))).InRange p) :
    (∀ r ∈ (s.trail (Tableau.ofProblem p)).tableau.rows, r.row.IsFinite) ∧
      ((s.trail (Tableau.ofProblem p)).stage ≠ .first →
        (s.trail (Tableau.ofProblem p)).tableau.objective.IsFinite) := by
  have sound := (Problem.validate_eq_ok_iff_sound p s.twoPhase).mp valid
  obtain ⟨rows, objective⟩ := Tableau.all_ofProblem (P := fun x : Float => x.isFinite = true)
    isFinite_zero isFinite_one (fun _ => isFinite_neg) sound.finite
    fun c mem => (sound.constraints c mem).2
  have fits : ∀ m ∈ s.moments p (Tableau.ofProblem p),
      ∀ row ∈ m.event.written (Tableau.ofProblem p).objective.cells m.tableau, row.InRange := by
    rw [← s.moments_report, Report.moments, List.forall_mem_map]
    exact inRange.rows
  have start : Configuration.Numbers ⟨.opening, Tableau.ofProblem p, 0⟩ :=
    fun _ => ⟨rows, fun _ _ => objective⟩
  have last := (s.course_trail (Tableau.ofProblem p)).keeps_of_recorded
    (fun step => step.numbers (Row.all_iff.mp objective).1 nonneg)
    (fun m mem => fits m (List.mem_append_left _ mem)) start
  obtain ⟨last_rows, last_objective⟩ :=
    Event.forall_allRows (fits _ (List.mem_append_right _ (List.mem_singleton_self _)))
  obtain ⟨numbers, own⟩ := last last_rows
  refine ⟨numbers, fun stage => own ?_ last_objective⟩
  unfold Trail.last
  cases run : (s.trail (Tableau.ofProblem p)).stage with
  | first => exact absurd run stage
  | only | second => rfl

/-- A run on an accepted problem that meets no infinity reports finite values and a finite
objective, whenever it reports an optimum or the point where its budget ran out. -/
theorem solve_finite (s : Solver Float) (valid : p.validate s.twoPhase = .ok ())
    (nonneg : ¬ s.tolerance < 0) :
    ∃ r, s.solve p = .ok r ∧ (r.InRange p →
      r.solution.status = .optimal ∨ r.solution.status = .iterationLimitReached →
      r.solution.objective.toFloat.isFinite = true ∧
        ∀ x ∈ r.solution.values, x.isFinite = true) := by
  refine ⟨_, s.solve_of_validate valid, fun inRange settled => ?_⟩
  have sound := (Problem.validate_eq_ok_iff_sound p s.twoPhase).mp valid
  obtain ⟨rows, objective⟩ := numbers_trail valid nonneg inRange
  have values := isFinite_values (s := s) (p := p) rows
  refine ⟨?_, values⟩
  change (s.objective p _).toFloat.isFinite = true
  rw [s.objective_of_settled p settled]
  apply isFinite_clean
  split
  · next stage =>
    exact isFinite_weightedSum sound.finite values
      (inRange.sums (s.limitReached_of_stage settled stage))
  · next stage =>
    obtain ⟨_, _, rhs⟩ := Row.all_iff.mp (objective stage)
    cases p.objective.sense with
    | maximize => exact rhs
    | minimize => exact isFinite_neg rhs

/-- A tie that leaves an artificial variable to be driven out, and a band for the third variable. -/
def tieAndBand : Problem Float :=
  { names := ["x1", "x2", "x3"]
    objective := ⟨[0.3, 0.2, 0.1], .maximize⟩
    constraints := [⟨"tie", [-1, -1, 0], .eq, 0⟩, ⟨"floor", [0, 0, 0.1], .ge, 0.7⟩,
      ⟨"cap", [0, 0, 0.3], .le, 4⟩] }

theorem solve_finite_tieAndBand :
    ∃ r, { Solver.default with twoPhase := true }.solve tieAndBand = .ok r ∧
      r.solution.status = .optimal ∧ r.InRange tieAndBand ∧
      r.solution.objective.toFloat.isFinite = true ∧
      ∀ x ∈ r.solution.values, x.isFinite = true := by
  obtain ⟨r, solved, spec⟩ := solve_finite { Solver.default with twoPhase := true }
    (p := tieAndBand) (Problem.validate_of_isOk (by decide +kernel)) (by decide +kernel)
  have optimal : r.solution.status = .optimal := status_of_solve solved (by decide +kernel)
  have checked := eq_of_solve (fun r => decide (r.InRange tieAndBand)) solved (x := true)
    (by decide +kernel)
  have inRange := of_decide_eq_true checked
  exact ⟨r, solved, optimal, inRange, spec inRange (Or.inl optimal)⟩

/-- One unit of the first variable costs next to the largest number, and ten are needed of either
one. -/
def overwhelmingCost : Problem Float :=
  { names := ["x1", "x2"]
    objective := ⟨[1e308, 1], .minimize⟩
    constraints := [⟨"demand", [1, 1], .ge, 10⟩] }

/-- The first phase takes all of the expensive variable, so its costs overflow, and the optimum is
no number. -/
theorem solve_optimal_overwhelmingCost :
    overwhelmingCost.validate true = .ok () ∧
    ∃ r, { Solver.default with twoPhase := true }.solve overwhelmingCost = .ok r ∧
      r.solution.status = .optimal ∧ r.solution.objective.toFloat.isNaN = true ∧
      r.solution.objective.toFloat.isFinite = false := by
  have valid : overwhelmingCost.validate true = .ok () :=
    Problem.validate_of_isOk (by decide +kernel)
  have solved := solve_of_validate { Solver.default with twoPhase := true } valid
  exact ⟨valid, _, solved, status_of_solve solved (by decide +kernel),
    eq_of_solve (·.solution.objective.toFloat.isNaN) solved (by decide +kernel),
    eq_of_solve (·.solution.objective.toFloat.isFinite) solved (by decide +kernel)⟩

end Solver

end LinearProgram

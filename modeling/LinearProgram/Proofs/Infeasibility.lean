import LinearProgram.Proofs.FirstPhase
import LinearProgram.Proofs.Validation

/-!
# What an infeasible status promises

The first phase finds the least sum that the artificial variables can have at an
admitted point of the starting tableau.  A run calls a problem infeasible
exactly if that sum exceeds the tolerance times the size of the right-hand
sides, and goes on otherwise.  A feasible point has no artificial part, so an
infeasible status is right at every tolerance.  At tolerance zero it is also
never missed.  At a positive tolerance it can be, and the size of one right-hand
side then decides about constraints that have nothing to do with it.
-/

namespace LinearProgram

namespace Tableau

/-! ## The size of the right-hand sides -/

/-- The size is the least number that is at least one and at least every right-hand side. -/
theorem rhsScale_le_iff (t : Tableau Rat) (bound : Rat) :
    t.rhsScale ≤ bound ↔ 1 ≤ bound ∧ ∀ r ∈ t.rows, |r.row.rhs| ≤ bound := by
  have fold : ∀ (rows : List (BasicRow Rat)) (m : Rat),
      rows.foldl (fun m r => Scalar.max m (Scalar.abs r.row.rhs)) m ≤ bound ↔
        m ≤ bound ∧ ∀ r ∈ rows, |r.row.rhs| ≤ bound := by
    intro rows
    induction rows with
    | nil => exact fun m => ⟨fun le => ⟨le, fun r mem => absurd mem List.not_mem_nil⟩, And.left⟩
    | cons r rows ih =>
      intro m
      rw [List.foldl_cons, ih, Scalar.max_eq, Scalar.abs_eq, max_le_iff, List.forall_mem_cons,
        and_assoc]
  exact fold t.rows 1

theorem one_le_rhsScale (t : Tableau Rat) : 1 ≤ t.rhsScale :=
  ((t.rhsScale_le_iff _).mp le_rfl).1

theorem threshold_nonneg {tolerance : Rat} (nonneg : 0 ≤ tolerance) (t : Tableau Rat) :
    0 ≤ tolerance * t.rhsScale :=
  mul_nonneg nonneg (zero_le_one.trans t.one_le_rhsScale)

end Tableau

namespace Solver

open Tableau

variable {p : Problem Rat}

/-! ## The threshold -/

/-- A run that ends infeasible has found every admitted point above the threshold. -/
theorem threshold_lt_of_infeasible (s : Solver Rat) (sized : p.WellSized) {residual : Rat}
    (verdict : (s.trail (ofProblem p)).verdict = .infeasible residual) {y : Point}
    (admits : (ofProblem p).Admits y) :
    s.tolerance * (ofProblem p).rhsScale < p.layout.artificialSum y := by
  by_cases none : p.layout.artificials = 0
  · rw [(s.trail_of_no_artificials (t := ofProblem p) none).2] at verdict
    exact absurd verdict (improve_verdict_ne_infeasible _ _ _ _ _)
  · rcases s.trail_cases (t := ofProblem p) none with
      ⟨_, limit⟩ | ⟨finished, above, _⟩ | ⟨_, _, _, second⟩
    · cases limit.symm.trans verdict
    · exact above.trans_le (s.residual_le sized finished admits)
    · exact absurd (second.symm.trans verdict) (improve_verdict_ne_infeasible _ _ _ _ _)

/-- A run that goes on to the problem's own objective has found an admitted point within the
threshold. -/
theorem exists_admits_of_accepted (s : Solver Rat) (sized : p.WellSized)
    (nonneg : 0 ≤ s.tolerance) (accepted : (s.trail (ofProblem p)).verdict.Accepts) :
    ∃ y, (ofProblem p).Admits y ∧
      p.layout.artificialSum y ≤ s.tolerance * (ofProblem p).rhsScale := by
  by_cases none : p.layout.artificials = 0
  · refine ⟨(ofProblem p).point, (isVertex_ofProblem sized).admits_point, ?_⟩
    have empty : p.layout.artificialSum (ofProblem p).point = 0 := by
      unfold Layout.artificialSum
      rw [none, Finset.sum_range_zero]
    rw [empty]
    exact threshold_nonneg nonneg _
  · rcases s.trail_cases (t := ofProblem p) none with
      ⟨_, limit⟩ | ⟨_, _, infeasible⟩ | ⟨_, within, _⟩
    · exact absurd (limit ▸ accepted) Verdict.not_accepts_limitReached
    · exact absurd (infeasible ▸ accepted) (Verdict.not_accepts_infeasible _)
    · refine ⟨(s.firstPhase (ofProblem p)).tableau.point, ?_, ?_⟩
      · exact (s.admits_firstPhase_iff sized _).mp (s.reach_firstPhase sized).1.admits_point
      · rw [← s.residual_eq sized]
        exact not_lt.mp within

/-! ## The status -/

/-- A problem reported as infeasible has no feasible point, and at tolerance zero a problem without
one is reported so unless the budget runs out. -/
theorem solve_infeasible_spec (s : Solver Rat) (valid : p.validate s.twoPhase = .ok ())
    (nonneg : 0 ≤ s.tolerance) :
    ∃ r, s.solve p = .ok r ∧
      (r.solution.status = .infeasible → ∀ x, ¬ p.Feasible x) ∧
      (s.tolerance = 0 → (∀ x, ¬ p.Feasible x) →
        r.solution.status = .infeasible ∨ r.solution.status = .iterationLimitReached) := by
  have sized := p.wellSized_of_validate valid
  refine ⟨_, s.solve_of_validate valid, fun status x feasible => ?_, fun zero empty => ?_⟩
  · obtain ⟨residual, verdict⟩ : ∃ r, (s.trail (ofProblem p)).verdict = .infeasible r :=
      Verdict.eq_infeasible_of_status status
    have above := s.threshold_lt_of_infeasible sized verdict
      (admits_extend sized feasible)
    rw [p.artificialSum_extend sized] at above
    exact absurd above (not_lt.mpr (threshold_nonneg nonneg _))
  · rw [report_status]
    refine (Verdict.accepts_or _).resolve_left fun accepted => ?_
    obtain ⟨y, admits, within⟩ := s.exists_admits_of_accepted sized nonneg accepted
    rw [zero, zero_mul] at within
    exact empty y (p.feasible_of_satisfiedBy sized admits.1 admits.2 fun _ =>
      Layout.artificial_eq_zero admits.1 within)

/-- A lower bound above an upper one. -/
def crossedBounds : Problem Rat :=
  { names := ["x1"]
    objective := ⟨[1], .minimize⟩
    constraints := [⟨"floor", [1], .ge, 5⟩, ⟨"cap", [1], .le, 3⟩] }

theorem one_lt_artificialSum_crossedBounds {y : Point}
    (admits : (ofProblem crossedBounds).Admits y) : 1 < crossedBounds.layout.artificialSum y := by
  obtain ⟨nonneg, satisfied⟩ := admits
  have floor : dot [1, -1, 0, 1] y = 5 := satisfied ⟨3, ⟨[1, -1, 0, 1], 0, 5⟩⟩ (.head _)
  have cap : dot [1, 0, 1, 0] y = 3 := satisfied ⟨2, ⟨[1, 0, 1, 0], 0, 3⟩⟩ (.tail _ (.head _))
  have surplus : 0 ≤ y 1 := nonneg 1 (by decide)
  have slack : 0 ≤ y 2 := nonneg 2 (by decide)
  have sum : crossedBounds.layout.artificialSum y = y 3 := Finset.sum_range_one _
  simp only [dot_cons, dot_nil] at floor cap
  linarith

theorem solve_infeasible_crossedBounds :
    ∃ r, (Solver.mk 10 0 true).solve crossedBounds = .ok r ∧ r.solution.status = .infeasible ∧
      ∀ x, ¬ crossedBounds.Feasible x := by
  obtain ⟨r, solved, sound, _⟩ :=
    solve_infeasible_spec (Solver.mk 10 0 true) (p := crossedBounds) rfl le_rfl
  have infeasible : r.solution.status = .infeasible :=
    status_of_solve solved (by decide +kernel)
  exact ⟨r, solved, infeasible, sound infeasible⟩

/-- A problem whose artificial variables stay above the threshold is not reported as solved. -/
theorem solve_above_threshold_spec (s : Solver Rat) (valid : p.validate s.twoPhase = .ok ())
    (nonneg : 0 ≤ s.tolerance)
    (above : ∀ y, (ofProblem p).Admits y →
      s.tolerance * (ofProblem p).rhsScale < p.layout.artificialSum y) :
    ∃ r, s.solve p = .ok r ∧ r.solution.status ≠ .optimal ∧ r.solution.status ≠ .unbounded := by
  have sized := p.wellSized_of_validate valid
  have refused : ¬ (s.trail (ofProblem p)).verdict.Accepts := by
    intro accepted
    obtain ⟨y, admits, within⟩ := s.exists_admits_of_accepted sized nonneg accepted
    exact absurd (above y admits) (not_lt.mpr within)
  obtain ⟨not_optimal, not_unbounded⟩ := not_or.mp refused
  exact ⟨_, s.solve_of_validate valid, not_optimal, not_unbounded⟩

theorem solve_crossedBounds_not_solved :
    ∃ r, { Solver.default with twoPhase := true }.solve crossedBounds = .ok r ∧
      r.solution.status ≠ .optimal ∧ r.solution.status ≠ .unbounded := by
  refine solve_above_threshold_spec { Solver.default with twoPhase := true } rfl
    (by decide +kernel) fun y admits => ?_
  have threshold : Solver.default.tolerance * (ofProblem crossedBounds).rhsScale < 1 := by
    decide +kernel
  exact threshold.trans (one_lt_artificialSum_crossedBounds admits)

/-- Crossed bounds on one variable, and a very weak bound on another one. -/
def farBound : Problem Rat :=
  { names := ["x1", "x2"]
    objective := ⟨[0, 0], .minimize⟩
    constraints := [⟨"low", [1, 0], .ge, 2⟩, ⟨"high", [1, 0], .le, 1⟩,
      ⟨"far", [0, 1], .le, 10000000000⟩] }

/-- The weak bound lifts the threshold above what the crossed ones leave, and the problem passes as
solved. -/
theorem solve_optimal_farBound :
    farBound.validate true = .ok () ∧
    (∀ y, (ofProblem farBound).Admits y →
      Solver.default.tolerance < farBound.layout.artificialSum y) ∧
    ∃ r, { Solver.default with twoPhase := true }.solve farBound = .ok r ∧
      r.solution.status = .optimal := by
  refine ⟨rfl, fun y admits => ?_, ?_⟩
  · obtain ⟨nonneg, satisfied⟩ := admits
    have low : dot [1, 0, -1, 0, 0, 1] y = 2 :=
      satisfied ⟨5, ⟨[1, 0, -1, 0, 0, 1], 0, 2⟩⟩ (.head _)
    have high : dot [1, 0, 0, 1, 0, 0] y = 1 :=
      satisfied ⟨3, ⟨[1, 0, 0, 1, 0, 0], 0, 1⟩⟩ (.tail _ (.head _))
    have surplus : 0 ≤ y 2 := nonneg 2 (by decide)
    have slack : 0 ≤ y 3 := nonneg 3 (by decide)
    have sum : farBound.layout.artificialSum y = y 5 := Finset.sum_range_one _
    have small : Solver.default.tolerance < (1 : Rat) := by decide +kernel
    simp only [dot_cons, dot_nil] at low high
    linarith
  · have solved := solve_of_validate { Solver.default with twoPhase := true } (p := farBound) rfl
    refine ⟨_, solved, ?_⟩
    decide +kernel

end Solver

end LinearProgram

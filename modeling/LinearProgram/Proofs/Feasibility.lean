import LinearProgram.Proofs.ObjectiveRow

/-!
# No step leaves the feasible side

Every recorded tableau has right-hand sides that are not negative, so no value
is reported below zero, whatever the status.  The pivots of the loop keep this
by the ratio rule.  Driving out takes no account of ratios and divides by
entries of either sign; it keeps it because the right-hand side of its row has
been set to zero, so that the pivot moves no other one.
-/

namespace LinearProgram

namespace Solver

open Tableau

variable {p : Problem Rat}

/-- The state in which a run is after any part of its course. -/
theorem accounted_of_course (s : Solver Rat) (sized : p.WellSized) (nonneg : 0 ≤ s.tolerance)
    {ms : List (Moment Rat)} {a : Configuration Rat}
    (course : Course s (ofProblem p) ⟨.opening, ofProblem p, 0⟩ ms a) :
    Accounted (ofProblem p) a :=
  course.keeps (fun step => step.accounted nonneg (canonical_ofProblem sized).objective_width)
    (accounted_ofProblem sized)

theorem isVertex_of_step (s : Solver Rat) (sized : p.WellSized) (nonneg : 0 ≤ s.tolerance)
    {x : Step Rat} (mem : x ∈ (s.report p (s.trail (ofProblem p))).steps) :
    x.tableau.IsVertex := by
  obtain ⟨k, at_k⟩ := List.mem_iff_getElem?.mp mem
  obtain ⟨a, b, before, step, _⟩ := s.transition_of_step at_k
  have kept := s.accounted_of_course sized nonneg before
  exact (step.isVertex nonneg (canonical_ofProblem sized).objective_width
    ⟨kept.vertex, kept.layout⟩).2.1

theorem isVertex_trail (s : Solver Rat) (sized : p.WellSized) (nonneg : 0 ≤ s.tolerance) :
    (s.trail (ofProblem p)).tableau.IsVertex :=
  (s.accounted_of_course sized nonneg (s.course_trail (ofProblem p))).vertex

/-- Rounding small values to zero does not make them negative. -/
theorem clean_nonneg (s : Solver Rat) {v : Rat} (nonneg : 0 ≤ v) : 0 ≤ s.clean v := by
  unfold clean
  split
  · exact le_rfl
  · exact nonneg

theorem values_nonneg (s : Solver Rat) {t : Tableau Rat} (vertex : t.IsVertex) :
    ∀ v ∈ s.values p t, 0 ≤ v := by
  intro v mem
  obtain ⟨j, _, rfl⟩ := List.mem_map.mp mem
  have nonneg := vertex.point_nonneg j
  unfold point at nonneg
  cases level : t.basicLevel j with
  | none => exact le_rfl
  | some x =>
    rw [level] at nonneg
    exact s.clean_nonneg nonneg

/-- No constraint row of any step has a negative right-hand side, and no reported value is
negative. -/
theorem solve_nonneg (s : Solver Rat) (valid : p.validate s.twoPhase = .ok ())
    (nonneg : 0 ≤ s.tolerance) :
    ∃ r, s.solve p = .ok r ∧ (∀ x ∈ r.steps, ∀ row ∈ x.tableau.rows, 0 ≤ row.row.rhs) ∧
      ∀ v ∈ r.solution.values, 0 ≤ v := by
  have sized := p.wellSized_of_validate valid
  refine ⟨_, s.solve_of_validate valid, fun x mem => ?_, ?_⟩
  · exact (s.isVertex_of_step sized nonneg mem).feasible
  · exact s.values_nonneg (s.isVertex_trail sized nonneg)

/-- Two bounds that miss each other by less than the tolerance.  The artificial variable is left
above zero, set to zero, and driven out on a negative entry. -/
def strainedBounds : Problem Rat :=
  { names := ["x1"]
    objective := ⟨[1], .maximize⟩
    constraints := [⟨"floor", [1], .ge, 2⟩, ⟨"cap", [1], .le, 1.9⟩] }

theorem solve_nonneg_strainedBounds :
    ∃ r, (Solver.mk 10 (1 / 10) true).solve strainedBounds = .ok r ∧
      (∀ x ∈ r.steps, ∀ row ∈ x.tableau.rows, 0 ≤ row.row.rhs) ∧
      (∀ v ∈ r.solution.values, 0 ≤ v) ∧
      r.pivots.map (fun p => (p.leaving, p.element)) = [("s2", 1), ("a1", -1)] := by
  obtain ⟨r, solved, rows, values⟩ :=
    solve_nonneg (Solver.mk 10 (1 / 10) true) (p := strainedBounds) rfl (by decide +kernel)
  exact ⟨r, solved, rows, values,
    eq_of_solve (·.pivots.map fun p => (p.leaving, p.element)) solved (by decide +kernel)⟩

end Solver

end LinearProgram

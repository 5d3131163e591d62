import LinearProgram.Proofs.SecondPhase
import LinearProgram.Proofs.Validation

/-!
# What an optimal and an unbounded status promise

Without artificial columns, or at tolerance zero, the two statuses that a run
of the second loop can end with are right.  An optimal run ends in a tableau
whose basic point no feasible point beats, and an unbounded one belongs to a
problem whose feasible points beat every bound.
-/

namespace LinearProgram

namespace Solver

open Tableau

variable {p : Problem Rat}

/-- A report of an optimal run shows, in its last step, a tableau whose basic point is best. -/
theorem solve_optimal_spec (s : Solver Rat) (valid : p.validate s.twoPhase = .ok ())
    (allowed : p.layout.artificials = 0 ∨ s.tolerance = 0) :
    ∃ r, s.solve p = .ok r ∧ (r.solution.status = .optimal →
      ∃ last, r.finalStep? = some last ∧ p.IsOptimum last.tableau.point) := by
  have sized := p.wellSized_of_validate valid
  obtain ⟨last, is_last, tableau⟩ := s.report_finalStep? p (s.trail (ofProblem p))
  refine ⟨_, s.solve_of_validate valid, fun status => ⟨last, is_last, ?_⟩⟩
  have verdict : (s.trail (ofProblem p)).verdict = .optimal :=
    Verdict.eq_optimal_of_status status
  have conclusion := s.concludes_trail sized allowed (Or.inl status)
  rw [tableau]
  exact conclusion.detached.isOptimum_point sized conclusion.equivalent
    (conclusion.optimal verdict)

/-- Two equations of which one follows from the other, so that an artificial variable stays
basic. -/
def repeatedEquation : Problem Rat :=
  { names := ["x1", "x2"]
    objective := ⟨[3, 2], .maximize⟩
    constraints := [⟨"total", [1, 1], .eq, 4⟩, ⟨"twice", [-2, -2], .eq, -8⟩,
      ⟨"cap", [1, 0], .le, 3⟩] }

theorem solve_optimal_repeatedEquation :
    ∃ r, (Solver.mk 10 0 true).solve repeatedEquation = .ok r ∧ r.solution.status = .optimal ∧
      ∃ last, r.finalStep? = some last ∧ repeatedEquation.IsOptimum last.tableau.point := by
  obtain ⟨r, solved, best⟩ :=
    solve_optimal_spec (Solver.mk 10 0 true) (p := repeatedEquation) rfl (Or.inr rfl)
  have optimal : r.solution.status = .optimal := status_of_solve solved (by decide +kernel)
  exact ⟨r, solved, optimal, best optimal⟩

/-- A problem that is reported as unbounded has feasible points past every bound. -/
theorem solve_unbounded_spec (s : Solver Rat) (valid : p.validate s.twoPhase = .ok ())
    (allowed : p.layout.artificials = 0 ∨ s.tolerance = 0) :
    ∃ r, s.solve p = .ok r ∧ (r.solution.status = .unbounded → p.IsUnbounded) := by
  have sized := p.wellSized_of_validate valid
  refine ⟨_, s.solve_of_validate valid, fun status => ?_⟩
  obtain ⟨c, verdict⟩ : ∃ c, (s.trail (ofProblem p)).verdict = .unbounded c :=
    Verdict.eq_unbounded_of_status status
  have conclusion := s.concludes_trail sized allowed (Or.inr status)
  obtain ⟨entering, leaving⟩ := conclusion.unbounded c verdict
  exact conclusion.detached.isUnbounded sized conclusion.equivalent entering leaving

/-- A lower bound, two copies of an equation, and nothing that stops both variables from growing
together. -/
def openStrip : Problem Rat :=
  { names := ["x1", "x2"]
    objective := ⟨[-1, -1], .minimize⟩
    constraints := [⟨"floor", [1, 1], .ge, 3⟩, ⟨"gap", [1, -1], .eq, 1⟩,
      ⟨"again", [2, -2], .eq, 2⟩] }

theorem solve_unbounded_openStrip :
    ∃ r, (Solver.mk 10 0 true).solve openStrip = .ok r ∧ r.solution.status = .unbounded ∧
      openStrip.IsUnbounded := by
  obtain ⟨r, solved, sound⟩ :=
    solve_unbounded_spec (Solver.mk 10 0 true) (p := openStrip) rfl (Or.inr rfl)
  have unbounded : r.solution.status = .unbounded := status_of_solve solved (by decide +kernel)
  exact ⟨r, solved, unbounded, sound unbounded⟩

end Solver

end LinearProgram

import Mathlib.Algebra.BigOperators.Group.List.Lemmas
import LinearProgram.Proofs.Feasibility

/-!
# The objective row and the reported objective

At every recorded step the right-hand side of the objective row is what the
row is about, at the step's basic point: the problem's gain outside the first
phase, and minus the artificial variables in it.  At tolerance zero the reported
objective is therefore the problem's objective at the reported values, whether
it is read from the row or, where the budget ran out in the first phase, summed
up anew.
-/

namespace LinearProgram

/-! ## The artificial variables at a basic point -/

namespace Tableau

variable {t : Tableau Rat}

/-- The sum of the levels of the artificial variables that are basic. -/
def artificialLevels (t : Tableau Rat) : Rat :=
  ((t.rows.filter fun r => t.layout.isArtificial r.basic).map fun r => r.row.rhs).sum

theorem Solved.nodup_basics (solved : t.Solved) : (t.rows.map BasicRow.basic).Nodup := by
  refine List.pairwise_map.mpr (solved.apart.imp_of_mem fun r_mem _ apart same => ?_)
  have zero := apart.1
  rw [← same, solved.unit _ r_mem] at zero
  exact one_ne_zero zero

/-- At the basic point the artificial variables sum to the levels of those that are basic, since
all others are zero. -/
theorem Solved.artificialSum_point (solved : t.Solved) :
    t.layout.artificialSum t.point = t.artificialLevels := by
  let kept := t.rows.filter fun r => t.layout.isArtificial r.basic
  have nodup : (kept.map BasicRow.basic).Nodup :=
    solved.nodup_basics.sublist (List.filter_sublist.map _)
  have levels : kept.map (fun r => r.row.rhs) = (kept.map BasicRow.basic).map t.point := by
    rw [List.map_map]
    refine List.map_congr_left fun r mem => ?_
    exact (solved.point_basic (List.mem_filter.mp mem).1).symm
  have columns : t.layout.artificialSum t.point =
      ∑ c ∈ (Finset.range t.layout.artificials).image t.layout.artificialColumn, t.point c := by
    refine (Finset.sum_image fun j _ k _ same => ?_).symm
    exact Nat.add_left_cancel same
  rw [columns, artificialLevels, levels, ← List.sum_toFinset _ nodup]
  refine (Finset.sum_subset (fun c mem => ?_) fun c mem rest => ?_).symm
  · obtain ⟨r, r_mem, rfl⟩ := List.mem_map.mp (List.mem_toFinset.mp mem)
    obtain ⟨k, inside, column⟩ := Layout.exists_artificialColumn (List.mem_filter.mp r_mem).2
    exact Finset.mem_image.mpr ⟨k, Finset.mem_range.mpr inside, column.symm⟩
  · obtain ⟨k, inside, rfl⟩ := Finset.mem_image.mp mem
    refine point_nonbasic fun r r_mem basic => rest (List.mem_toFinset.mpr ?_)
    have artificial := Layout.isArtificial_artificialColumn (Finset.mem_range.mp inside)
    rw [← basic] at artificial ⊢
    exact List.mem_map_of_mem (List.mem_filter.mpr ⟨r_mem, artificial⟩)

/-! ## What the right-hand side of the objective row is -/

theorem Prices.rhs_eq_gainAt {p : Problem Rat} (prices : t.Prices (ofProblem p).objective.cells)
    (canonical : t.Canonical) : t.objective.rhs = p.gainAt t.point := by
  have start : (ofProblem p).objective.gap t.point =
      0 - dot (ofProblem p).objective.cells t.point := rfl
  rw [prices.objective_rhs canonical, ← p.gap_objective_ofProblem, start, zero_sub]

theorem Prices.rhs_eq_artificialLevels (prices : t.Prices (artificialCosts t.layout))
    (canonical : t.Canonical) : t.objective.rhs = -t.artificialLevels := by
  rw [prices.objective_rhs canonical, dot_artificialCosts, canonical.solved.artificialSum_point]

end Tableau

/-! ## What is reported -/

/-- Products added up from left to right are the linear form. -/
theorem foldl_zipWith_mul {as bs : List Rat} (length : as.length = bs.length) (z : Rat) :
    (List.zipWith (· * ·) as bs).foldl (· + ·) z = z + dot as fun j => bs.getD j 0 := by
  induction as generalizing bs z with
  | nil => simp
  | cons a as ih =>
    cases bs with
    | nil => cases length
    | cons b bs =>
      rw [List.zipWith_cons_cons, List.foldl_cons, ih (Nat.succ.inj length), dot_cons]
      simp [add_assoc]

namespace Solver

open Tableau

variable {p : Problem Rat} {s : Solver Rat}

theorem weightedSum_eq {as bs : List Rat} (length : as.length = bs.length) :
    weightedSum as bs = dot as fun j => bs.getD j 0 := by
  unfold weightedSum
  rw [foldl_zipWith_mul length]
  exact (congrArg (· + _) neg_zero).trans (zero_add _)

section ToleranceZero

variable (zero : s.tolerance = 0)

include zero

theorem clean_of_tolerance_zero (v : Rat) : s.clean v = v := by
  unfold clean
  rw [zero, Scalar.abs_eq, if_neg (not_lt.mpr (abs_nonneg v))]

theorem values_of_tolerance_zero (p : Problem Rat) (t : Tableau Rat) :
    s.values p t = (List.range p.variableCount).map t.point := by
  refine List.map_congr_left fun j _ => ?_
  unfold point
  cases t.basicLevel j with
  | none => rfl
  | some v => exact s.clean_of_tolerance_zero zero v

theorem valueAt_values (p : Problem Rat) (t : Tableau Rat) :
    (dot p.objective.coefficients fun j => (s.values p t).getD j 0) = p.valueAt t.point := by
  refine dot_congr fun j inside => ?_
  have position : j < p.variableCount := inside
  rw [values_of_tolerance_zero zero]
  simp [position]

/-- Read from the objective row or summed up anew, the reported objective is that of the basic
point. -/
theorem objective_of_tolerance_zero {t : Trail Rat}
    (settled : t.verdict.status = .optimal ∨ t.verdict.status = .iterationLimitReached)
    (row : t.stage ≠ .first → t.tableau.objective.rhs = p.gainAt t.tableau.point) :
    s.objective p t = .finite (p.valueAt t.tableau.point) := by
  have length : p.objective.coefficients.length = (s.values p t.tableau).length := by
    simp [values, Problem.variableCount]
  have summed : weightedSum p.objective.coefficients (s.values p t.tableau) =
      p.valueAt t.tableau.point :=
    (weightedSum_eq length).trans (valueAt_values zero p t.tableau)
  rw [s.objective_of_settled p settled, s.clean_of_tolerance_zero zero]
  congr 1
  split
  · exact summed
  · next other =>
    have level := row other
    unfold Problem.gainAt at level
    cases sense : p.objective.sense with
    | maximize =>
      rw [sense] at level
      exact level
    | minimize =>
      rw [sense] at level
      exact neg_eq_iff_eq_neg.mpr level

end ToleranceZero

/-- A run that ends outside the first phase ends with the problem's gain in the objective row. -/
theorem rhs_trail (s : Solver Rat) (sized : p.WellSized) (nonneg : 0 ≤ s.tolerance)
    (other : (s.trail (ofProblem p)).stage ≠ .first) :
    (s.trail (ofProblem p)).tableau.objective.rhs =
      p.gainAt (s.trail (ofProblem p)).tableau.point := by
  have kept := s.accounted_of_course sized nonneg (s.course_trail (ofProblem p))
  refine Prices.rhs_eq_gainAt ?_ kept.vertex.canonical
  have prices := kept.prices (by simp [Trail.last]) (by simp [Trail.last])
  unfold Trail.last at prices
  cases stage : (s.trail (ofProblem p)).stage with
  | first => exact absurd stage other
  | only | second =>
    rw [stage] at prices
    exact prices

/-- At every step the right-hand side of the objective row is the gain of the basic point, or in the
first phase, until the first exchange, minus what its artificial variables sum to.  At tolerance
zero the reported objective is the one of the reported values. -/
theorem solve_objective_spec (s : Solver Rat) (valid : p.validate s.twoPhase = .ok ())
    (nonneg : 0 ≤ s.tolerance) :
    ∃ r, s.solve p = .ok r ∧
      (∀ k x, r.steps[k]? = some x →
        (¬ r.InFirstPhase k → x.tableau.objective.rhs = p.gainAt x.tableau.point) ∧
        (r.InFirstPhase k → r.Unexchanged k →
          x.tableau.objective.rhs = -x.tableau.artificialLevels)) ∧
      (s.tolerance = 0 →
        r.solution.status = .optimal ∨ r.solution.status = .iterationLimitReached →
        r.solution.objective =
          .finite (dot p.objective.coefficients fun j => r.solution.values.getD j 0)) := by
  have sized := p.wellSized_of_validate valid
  have width := (canonical_ofProblem sized).objective_width
  refine ⟨_, s.solve_of_validate valid, fun k x at_k => ?_, fun zero settled => ?_⟩
  · obtain ⟨a, b, before, step, phase, exchanged⟩ := s.transition_of_step at_k
    have kept := s.accounted_of_course sized nonneg before
    obtain ⟨own, artificial⟩ := step.prices width kept
    obtain ⟨_, vertex, layout⟩ := step.isVertex nonneg width ⟨kept.vertex, kept.layout⟩
    refine ⟨fun outside => ?_, fun inside unexchanged => ?_⟩
    · exact (own (phase.not.mp outside)).rhs_eq_gainAt vertex.canonical
    · have prices := artificial (phase.mp inside) (exchanged unexchanged)
      rw [← layout] at prices
      exact prices.rhs_eq_artificialLevels vertex.canonical
  · exact (objective_of_tolerance_zero zero settled (s.rhs_trail sized nonneg)).trans
      (congrArg Extended.finite (valueAt_values zero p _).symm)

/-- Two lower bounds, of which a budget of one pivot can only meet the first. -/
def twoFloors : Problem Rat :=
  { names := ["x1", "x2"]
    objective := ⟨[2, 3], .minimize⟩
    constraints := [⟨"sum", [1, 1], .ge, 4⟩, ⟨"second", [-1, 2], .ge, 2⟩] }

theorem solve_objective_twoFloors :
    ∃ r, (Solver.mk 1 0 true).solve twoFloors = .ok r ∧
      r.solution.status = .iterationLimitReached ∧
      r.solution.objective =
        .finite (dot twoFloors.objective.coefficients fun j => r.solution.values.getD j 0) ∧
      r.solution.objective = .finite 3 ∧
      ∃ x : Step Rat, r.steps[3]? = some x ∧ x.tableau.objective.rhs = -x.tableau.artificialLevels ∧
        x.tableau.artificialLevels = 3 := by
  obtain ⟨r, solved, rows, reported⟩ :=
    solve_objective_spec (Solver.mk 1 0 true) (p := twoFloors) rfl le_rfl
  have limit : r.solution.status = .iterationLimitReached :=
    status_of_solve solved (by decide +kernel)
  have levels := eq_of_solve (x := some 3) (·.steps[3]?.map (·.tableau.artificialLevels)) solved
    (by decide +kernel)
  have phase := eq_of_solve (fun r => decide (r.InFirstPhase 3 ∧ r.Unexchanged 3)) solved
    (x := true) (by decide +kernel)
  obtain ⟨inside, unexchanged⟩ := of_decide_eq_true phase
  obtain ⟨x, at_x, level⟩ := Option.map_eq_some_iff.mp levels
  exact ⟨r, solved, limit, reported rfl (Or.inr limit),
    eq_of_solve (·.solution.objective) solved (by decide +kernel), x, at_x,
    (rows 3 x at_x).2 inside unexchanged, level⟩

end Solver

end LinearProgram

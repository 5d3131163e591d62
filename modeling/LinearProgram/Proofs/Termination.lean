import Mathlib.Tactic.IntervalCases
import LinearProgram.Proofs.Cycling
import LinearProgram.Proofs.Infeasibility
import LinearProgram.Proofs.SecondPhase

/-!
# Problems with bounded feasible points

At tolerance zero, a problem that has feasible points, and none with arbitrarily
large values, can be reported neither as infeasible nor as unbounded.  So either
its run ends with an optimum, or one of its loops goes round and no budget is
enough.  Which of the two it is shows within a budget that depends only on the
number of rows and columns.

The second case does occur, also where the best point is unique: ties are broken
by position, and there is no safeguard against coming back.
-/

namespace LinearProgram

/-! ## Bounded problems -/

namespace Problem

variable {p : Problem Rat}

/-- No decision variable takes arbitrarily large values at feasible points. -/
def IsBounded (p : Problem Rat) : Prop :=
  ∃ bound : Rat, ∀ x, p.Feasible x → ∀ j < p.variableCount, x j ≤ bound

theorem abs_valueAt_le {bound : Rat} {x : Point} (feasible : p.Feasible x)
    (within : ∀ j < p.variableCount, x j ≤ bound) :
    |p.valueAt x| ≤ ∑ j ∈ Finset.range p.variableCount,
      |p.objective.coefficients.getD j 0| * bound := by
  refine (Finset.abs_sum_le_sum_abs _ _).trans (Finset.sum_le_sum fun j mem => ?_)
  have inside := Finset.mem_range.mp mem
  rw [abs_mul, abs_of_nonneg (feasible.1 j inside)]
  exact mul_le_mul_of_nonneg_left (within j inside) (abs_nonneg _)

theorem IsBounded.not_isUnbounded (bounded : p.IsBounded) : ¬ p.IsUnbounded := by
  intro unbounded
  obtain ⟨bound, within⟩ := bounded
  unfold IsUnbounded at unbounded
  cases sense : p.objective.sense with
  | maximize =>
    rw [sense] at unbounded
    obtain ⟨x, feasible, above⟩ := unbounded _
    exact absurd (abs_le.mp (abs_valueAt_le feasible (within x feasible))).2 (not_le.mpr above)
  | minimize =>
    rw [sense] at unbounded
    obtain ⟨x, feasible, below⟩ := unbounded _
    exact absurd (abs_le.mp (abs_valueAt_le feasible (within x feasible))).1 (not_le.mpr below)

/-- Enough pivots for both loops to have been in more tableaux than there are lists of basic
columns. -/
def pivotBound (p : Problem Rat) : Nat := 2 * (p.layout.width ^ p.constraints.length + 1)

end Problem

/-! ## Runs that no budget ends -/

/-- One of the loops that a report shows goes round. -/
def Report.Cycles (r : Report Rat) : Prop :=
  ∃ stage, Recurs stage (r.steps.map fun x => ⟨x.event, x.tableau⟩)

namespace Tableau

theorem length_rows_driveOut (tolerance : Rat) (n : Nat) (rows : List Nat) (t : Tableau Rat) :
    (t.driveOut tolerance n rows).2.rows.length = t.rows.length := by
  induction rows generalizing t with
  | nil => rfl
  | cons i rows ih =>
    rw [driveOut]
    split
    · exact ih t
    · simp [ih, clearRhs]

end Tableau

namespace Solver

open Tableau

variable {p : Problem Rat} {t : Tableau Rat} {twoPhase : Bool} {k n : Nat}

/-- At tolerance zero, no budget ends the run, and from some budget on it records how it goes
round. -/
structure GoesRound (twoPhase : Bool) (t : Tableau Rat) (enough : Nat) : Prop where
  limit : ∀ n, ((Solver.mk n 0 twoPhase).trail t).verdict = .limitReached
  recurs : ∀ n, enough ≤ n → ∃ stage, Recurs stage ((Solver.mk n 0 twoPhase).trail t).moments

/-- A budget that is not enough says the same of all smaller ones. -/
theorem limitReached_trail_of_le (le : k ≤ n)
    (limit : ((Solver.mk n 0 twoPhase).trail t).verdict = .limitReached) :
    ((Solver.mk k 0 twoPhase).trail t).verdict = .limitReached := by
  obtain ⟨extra, rfl⟩ := Nat.exists_eq_add_of_le le
  by_contra finished
  have same := ((Solver.mk k 0 twoPhase).cutShort_trail extra t).same finished
  exact finished (same ▸ limit)

/-- What the second loop records is part of the record, if the run comes to it. -/
theorem secondLoop_infix_trail (s : Solver Rat) (some : t.layout.artificials ≠ 0)
    (finished : (s.firstPhase t).verdict ≠ .limitReached)
    (within : ¬ s.tolerance * t.rhsScale < s.residual t) :
    (s.secondLoop t).moments <:+: (s.trail t).moments := by
  rw [s.moments_trail_of_within some finished within]
  exact (List.suffix_append _ _).isInfix

/-- So is what the loop of the first phase records, whatever comes after it. -/
theorem firstPhase_infix_trail (s : Solver Rat) (some : t.layout.artificials ≠ 0) :
    (s.firstPhase t).moments <:+: (s.trail t).moments := by
  unfold trail
  rw [if_neg some]
  exact ((List.suffix_cons _ _).isInfix.trans (s.firstPhase_prefix_bothPhases t).isInfix).trans
    (List.suffix_append _ _).isInfix

/-- Without artificial variables there is only one loop. -/
theorem onlyLoop_infix_trail (s : Solver Rat) (none : t.layout.artificials = 0) :
    (t.improve .only s.maxIterations 0).moments <:+: (s.trail t).moments := by
  unfold trail
  rw [if_pos none]
  exact (List.suffix_append _ _).isInfix

section Loops

variable {enough : Nat} (large : t.layout.width ^ t.rows.length < enough)

include large

theorem goesRound_of_only (vertex : t.IsVertex) (none : t.layout.artificials = 0)
    (limit : (t.improve .only enough 0).verdict = .limitReached) :
    GoesRound twoPhase t enough := by
  have always := vertex.limitReached_of_large limit large.le
  constructor
  · intro n
    rw [((Solver.mk n 0 twoPhase).trail_of_no_artificials none).2]
    exact always n
  · intro n le
    exact ⟨.only, (vertex.recurs_improve (always n) (large.trans_le le)).mono
      ((Solver.mk n 0 twoPhase).onlyLoop_infix_trail none)⟩

theorem goesRound_of_first (vertex : t.priceArtificials.IsVertex)
    (some : t.layout.artificials ≠ 0)
    (limit : ((Solver.mk enough 0 twoPhase).firstPhase t).verdict = .limitReached) :
    GoesRound twoPhase t enough := by
  have always := vertex.limitReached_of_large limit large.le
  constructor
  · intro n
    rcases (Solver.mk n 0 twoPhase).trail_cases some with
      ⟨_, limit⟩ | ⟨finished, _⟩ | ⟨finished, _⟩
    · exact limit
    · exact absurd (always n) finished
    · exact absurd (always n) finished
  · intro n le
    exact ⟨.first, (vertex.recurs_improve (always n) (large.trans_le le)).mono
      ((Solver.mk n 0 twoPhase).firstPhase_infix_trail some)⟩

end Loops

section FirstPhaseFinished

variable (finished : ((Solver.mk k 0 twoPhase).firstPhase t).verdict ≠ .limitReached) (le : k ≤ n)

include finished le

theorem firstPhase_eq_of_le :
    (Solver.mk n 0 twoPhase).firstPhase t = (Solver.mk k 0 twoPhase).firstPhase t := by
  obtain ⟨extra, rfl⟩ := Nat.exists_eq_add_of_le le
  exact ((Solver.mk k 0 twoPhase).cutShort_firstPhase extra t).same finished

theorem residual_eq_of_le :
    (Solver.mk n 0 twoPhase).residual t = (Solver.mk k 0 twoPhase).residual t := by
  unfold Solver.residual
  rw [firstPhase_eq_of_le finished le]

/-- A larger budget leaves all that it has more to the second loop. -/
theorem secondLoop_eq_of_le :
    (Solver.mk n 0 twoPhase).secondLoop t =
      (((Solver.mk k 0 twoPhase).drivenOut t).loadObjective t.objective.cells).improve .second
        (n - ((Solver.mk k 0 twoPhase).firstPhase t).iterations)
        ((Solver.mk k 0 twoPhase).firstPhase t).iterations := by
  unfold secondLoop drivenOut
  rw [firstPhase_eq_of_le finished le]

/-- Once the first phase has finished, it is the second loop that runs out of budget. -/
theorem limitReached_secondLoop (some : t.layout.artificials ≠ 0)
    (limit : ((Solver.mk n 0 twoPhase).trail t).verdict = .limitReached) :
    ¬ 0 * t.rhsScale < (Solver.mk k 0 twoPhase).residual t ∧
      ((Solver.mk n 0 twoPhase).secondLoop t).verdict = .limitReached := by
  rcases (Solver.mk n 0 twoPhase).trail_cases some with
    ⟨first, _⟩ | ⟨_, _, infeasible⟩ | ⟨_, within, _, verdict⟩
  · exact absurd (firstPhase_eq_of_le finished le ▸ first) finished
  · cases infeasible.symm.trans limit
  · exact ⟨residual_eq_of_le finished le ▸ within, verdict.symm.trans limit⟩

end FirstPhaseFinished

theorem length_rows_drivenOut (s : Solver Rat) (t : Tableau Rat) :
    (s.drivenOut t).rows.length = t.rows.length := by
  unfold drivenOut firstPhase
  rw [length_rows_driveOut, length_rows_improve]
  rfl

/-- The first loop ends within half of the budget, and leaves the other half to the second one. -/
theorem goesRound_of_second (sized : p.WellSized) (some : p.layout.artificials ≠ 0)
    (large : p.layout.width ^ p.constraints.length < k)
    (finished : ((Solver.mk k 0 twoPhase).firstPhase (ofProblem p)).verdict ≠ .limitReached)
    (limit : ((Solver.mk (2 * k) 0 twoPhase).trail (ofProblem p)).verdict = .limitReached) :
    GoesRound twoPhase (ofProblem p) (2 * k) := by
  obtain ⟨within, second⟩ :=
    limitReached_secondLoop finished (show k ≤ 2 * k by omega) some limit
  obtain ⟨⟨vertex, _, _⟩, same⟩ :=
    (Solver.mk k 0 twoPhase).detached_drivenOut sized rfl within
  have spent : ((Solver.mk k 0 twoPhase).firstPhase (ofProblem p)).iterations ≤ k :=
    (Solver.mk k 0 twoPhase).iterations_firstPhase_le (ofProblem p)
  have rows := (Solver.mk k 0 twoPhase).length_rows_drivenOut (ofProblem p)
  rw [length_rows_ofProblem] at rows
  rw [secondLoop_eq_of_le finished (by omega)] at second
  -- Of `2 * k` pivots at least `k` are left to the second loop, and that many it cannot make
  -- without coming back to a tableau.
  have always := vertex.limitReached_of_large second (by
    rw [same.layout, loadObjective_rows, rows]
    exact large.le.trans (by omega))
  have late : ∀ n, k ≤ n →
      ((Solver.mk n 0 twoPhase).trail (ofProblem p)).verdict = .limitReached := by
    intro n le
    rcases (Solver.mk n 0 twoPhase).trail_cases (t := ofProblem p) some with
      ⟨_, limit⟩ | ⟨_, above, _⟩ | ⟨_, _, _, verdict⟩
    · exact limit
    · exact absurd (residual_eq_of_le finished le ▸ above) within
    · rw [verdict, secondLoop_eq_of_le finished le]
      exact always _
  constructor
  · intro n
    rcases Nat.le_total k n with le | le
    · exact late n le
    · exact limitReached_trail_of_le le (late k le_rfl)
  · intro n twice
    have le : k ≤ n := by omega
    have recorded := (Solver.mk n 0 twoPhase).secondLoop_infix_trail (t := ofProblem p) some
      (firstPhase_eq_of_le finished le ▸ finished) (residual_eq_of_le finished le ▸ within)
    refine ⟨.second, Recurs.mono ?_ recorded⟩
    rw [secondLoop_eq_of_le finished le]
    refine vertex.recurs_improve (always _) ?_
    rw [same.layout, loadObjective_rows, rows]
    exact large.trans_le (by omega)

theorem GoesRound.mono {enough larger : Nat} (round : GoesRound twoPhase t enough)
    (le : enough ≤ larger) : GoesRound twoPhase t larger :=
  ⟨round.limit, fun n larger_le => round.recurs n (le.trans larger_le)⟩

/-- If twice as many pivots as there are lists of basic columns do not end a run, no number of
pivots does. -/
theorem goesRound_of_limitReached (sized : p.WellSized)
    (limit : ((Solver.mk p.pivotBound 0 twoPhase).trail (ofProblem p)).verdict = .limitReached) :
    GoesRound twoPhase (ofProblem p) p.pivotBound := by
  have rows := length_rows_ofProblem p
  have large : (ofProblem p).layout.width ^ (ofProblem p).rows.length <
      p.layout.width ^ p.constraints.length + 1 := by
    rw [rows]
    exact Nat.lt_succ_self _
  have half : p.layout.width ^ p.constraints.length + 1 ≤ p.pivotBound := by
    unfold Problem.pivotBound
    omega
  by_cases none : p.layout.artificials = 0
  · refine goesRound_of_only (large.trans_le half) (isVertex_ofProblem sized) none ?_
    rwa [((Solver.mk p.pivotBound 0 twoPhase).trail_of_no_artificials
      (t := ofProblem p) none).2] at limit
  · by_cases first : ((Solver.mk (p.layout.width ^ p.constraints.length + 1) 0 twoPhase).firstPhase
        (ofProblem p)).verdict = .limitReached
    · exact (goesRound_of_first large (isVertex_priceArtificials sized) none first).mono half
    · exact goesRound_of_second sized none (Nat.lt_succ_self _) first limit

/-! ## Bounded problems -/

/-- At tolerance zero, a problem with feasible points, all within bounds, is never called infeasible
or unbounded. -/
theorem verdict_of_isBounded (s : Solver Rat) (sized : p.WellSized) (zero : s.tolerance = 0)
    (nonempty : ∃ x, p.Feasible x) (bounded : p.IsBounded) :
    (s.trail (ofProblem p)).verdict = .optimal ∨
      (s.trail (ofProblem p)).verdict = .limitReached := by
  rcases (s.trail (ofProblem p)).verdict.accepts_or with accepted | infeasible | limit
  · refine Or.inl (Verdict.eq_optimal_of_status (accepted.resolve_right fun status => ?_))
    obtain ⟨c, verdict⟩ := Verdict.eq_unbounded_of_status status
    have conclusion := s.concludes_trail sized (Or.inr zero) accepted
    obtain ⟨entering, leaving⟩ := conclusion.unbounded c verdict
    exact bounded.not_isUnbounded
      (conclusion.detached.isUnbounded sized conclusion.equivalent entering leaving)
  · obtain ⟨residual, verdict⟩ := Verdict.eq_infeasible_of_status infeasible
    obtain ⟨x, feasible⟩ := nonempty
    have above := s.threshold_lt_of_infeasible sized verdict (admits_extend sized feasible)
    rw [p.artificialSum_extend sized, zero, zero_mul] at above
    exact absurd above (lt_irrefl 0)
  · exact Or.inr (Verdict.eq_limitReached_of_status limit)

theorem cycles_of_recurs (s : Solver Rat) {stage : Stage}
    (recurs : Recurs stage (s.trail t).moments) : (s.report p (s.trail t)).Cycles := by
  exact ⟨stage, recurs.mono (s.trail_prefix_report p t).isInfix⟩

/-- A problem with feasible points, all within bounds, is solved by every budget from some size on,
or no budget is enough, because one of the two loops goes round. -/
theorem solve_bounded_spec (valid : p.validate twoPhase = .ok ()) (nonempty : ∃ x, p.Feasible x)
    (bounded : p.IsBounded) :
    (∀ n, p.pivotBound ≤ n → ∃ r, (Solver.mk n 0 twoPhase).solve p = .ok r ∧
      r.solution.status = .optimal) ∨
    (∀ n, ∃ r, (Solver.mk n 0 twoPhase).solve p = .ok r ∧
      r.solution.status = .iterationLimitReached ∧ (p.pivotBound ≤ n → r.Cycles)) := by
  have sized := p.wellSized_of_validate valid
  by_cases limit : ((Solver.mk p.pivotBound 0 twoPhase).trail (ofProblem p)).verdict = .limitReached
  · obtain ⟨always, round⟩ := goesRound_of_limitReached sized limit
    refine Or.inr fun n => ⟨_, solve_of_validate (Solver.mk n 0 twoPhase) valid, ?_, fun le => ?_⟩
    · rw [report_status, always n]
      rfl
    · obtain ⟨stage, recurs⟩ := round n le
      exact cycles_of_recurs _ recurs
  · refine Or.inl fun n le => ⟨_, solve_of_validate (Solver.mk n 0 twoPhase) valid, ?_⟩
    have finished := fun spent => limit (limitReached_trail_of_le le spent)
    have optimal := (verdict_of_isBounded (Solver.mk n 0 twoPhase) sized rfl nonempty
      bounded).resolve_right finished
    rw [report_status, optimal]
    rfl

/-- The second loop begins with a pivot in a row whose right-hand side is zero, and gets away from
there. -/
def flatCorner : Problem Rat :=
  { names := ["x1", "x2", "x3"]
    objective := ⟨[2, 1, 1], .maximize⟩
    constraints := [⟨"wedge", [1, -1, 0], .le, 0⟩, ⟨"floor", [0, 0, 1], .ge, 1⟩,
      ⟨"cap", [1, 1, 1], .le, 4⟩] }

theorem feasible_flatCorner_iff (x : Point) :
    flatCorner.Feasible x ↔ (0 ≤ x 0 ∧ 0 ≤ x 1 ∧ 0 ≤ x 2) ∧
      x 0 ≤ x 1 ∧ 1 ≤ x 2 ∧ x 0 + x 1 + x 2 ≤ 4 := by
  have signs : (∀ j < 3, 0 ≤ x j) ↔ 0 ≤ x 0 ∧ 0 ≤ x 1 ∧ 0 ≤ x 2 := by
    constructor
    · exact fun nonneg => ⟨nonneg 0 (by omega), nonneg 1 (by omega), nonneg 2 (by omega)⟩
    · rintro ⟨_, _, _⟩ j j_lt
      interval_cases j <;> assumption
  apply and_congr signs
  simp [flatCorner, Constraint.HoldsAt, dot_cons, add_assoc]

/-- Two rows with a right-hand side of zero hand the basis to each other, and after six pivots it is
the first one again. -/
def carousel : Problem Rat :=
  { names := ["x1", "x2", "x3", "x4"]
    objective := ⟨[10, -57, -9, -24], .maximize⟩
    constraints := [⟨"first", [1 / 2, -11 / 2, -5 / 2, 9], .le, 0⟩,
      ⟨"second", [1 / 2, -3 / 2, -1 / 2, 1], .le, 0⟩, ⟨"total", [1, 1, 1, 1], .le, 1⟩] }

theorem feasible_carousel_iff (x : Point) :
    carousel.Feasible x ↔ (0 ≤ x 0 ∧ 0 ≤ x 1 ∧ 0 ≤ x 2 ∧ 0 ≤ x 3) ∧
      1 / 2 * x 0 + -11 / 2 * x 1 + -5 / 2 * x 2 + 9 * x 3 ≤ 0 ∧
      1 / 2 * x 0 + -3 / 2 * x 1 + -1 / 2 * x 2 + x 3 ≤ 0 ∧ x 0 + x 1 + x 2 + x 3 ≤ 1 := by
  have signs : (∀ j < 4, 0 ≤ x j) ↔ 0 ≤ x 0 ∧ 0 ≤ x 1 ∧ 0 ≤ x 2 ∧ 0 ≤ x 3 := by
    constructor
    · exact fun nonneg =>
        ⟨nonneg 0 (by omega), nonneg 1 (by omega), nonneg 2 (by omega), nonneg 3 (by omega)⟩
    · rintro ⟨_, _, _, _⟩ j j_lt
      interval_cases j <;> assumption
  apply and_congr signs
  simp [carousel, Constraint.HoldsAt, dot_cons, add_assoc]

theorem valueAt_carousel (x : Point) :
    carousel.valueAt x = 10 * x 0 - 57 * x 1 - 9 * x 2 - 24 * x 3 := by
  simp [Problem.valueAt, carousel, dot_cons]
  ring

theorem isBounded_carousel : carousel.IsBounded := by
  refine ⟨1, fun x feasible j inside => ?_⟩
  obtain ⟨⟨_, _, _, _⟩, _, _, total⟩ := (feasible_carousel_iff x).mp feasible
  have j_lt : j < 4 := inside
  interval_cases j <;> linarith

theorem verdict_carousel (n : Nat) :
    ((Solver.mk n 0 false).trail (ofProblem carousel)).verdict = .limitReached := by
  have vertex := isVertex_ofProblem (carousel.wellSized_of_validate
    (rfl : carousel.validate false = .ok ()))
  rw [((Solver.mk n 0 false).trail_of_no_artificials (t := ofProblem carousel) rfl).2]
  exact limitReached_of_return (by decide : 0 < 6) (by decide +kernel)
    (vertex.improve_eq_of_basis_eq (by decide +kernel)) n

theorem status_carousel {n : Nat} {r : Report Rat}
    (solved : (Solver.mk n 0 false).solve carousel = .ok r) :
    r.solution.status = .iterationLimitReached := by
  rw [solve_of_validate (Solver.mk n 0 false) (rfl : carousel.validate false = .ok ())] at solved
  cases solved
  rw [report_status, verdict_carousel]
  rfl

theorem solve_bounded_flatCorner_carousel :
    (∃ r, (Solver.mk 1000 0 true).solve flatCorner = .ok r ∧ r.solution.status = .optimal) ∧
    ∃ r, (Solver.mk 1000 0 false).solve carousel = .ok r ∧
      r.solution.status = .iterationLimitReached ∧ r.Cycles := by
  constructor
  · have nonempty : ∃ x, flatCorner.Feasible x :=
      ⟨Pi.single 2 1, (feasible_flatCorner_iff _).mpr (by simp)⟩
    have bounded : flatCorner.IsBounded := by
      refine ⟨4, fun x feasible j inside => ?_⟩
      obtain ⟨⟨_, _, _⟩, _, _, cap⟩ := (feasible_flatCorner_iff x).mp feasible
      have j_lt : j < 3 := inside
      interval_cases j <;> linarith
    rcases solve_bounded_spec (p := flatCorner) (rfl : flatCorner.validate true = .ok ())
      nonempty bounded with solved | round
    · exact solved 1000 (by decide)
    · obtain ⟨r, solved, limit, _⟩ := round 10
      have optimal : r.solution.status = .optimal := status_of_solve solved (by decide +kernel)
      cases limit.symm.trans optimal
  · have nonempty : ∃ x, carousel.Feasible x := ⟨0, (feasible_carousel_iff _).mpr (by simp)⟩
    rcases solve_bounded_spec (p := carousel) (rfl : carousel.validate false = .ok ())
      nonempty isBounded_carousel with solved | round
    · obtain ⟨r, solved, optimal⟩ := solved 1000 (by decide)
      cases optimal.symm.trans (status_carousel solved)
    · obtain ⟨r, solved, limit, cycles⟩ := round 1000
      exact ⟨r, solved, limit, cycles (by decide)⟩

/-- With a single best point among bounded ones, no budget need be enough. -/
theorem solve_carousel_unsolved :
    carousel.validate false = .ok () ∧ (∃ x, carousel.Feasible x) ∧ carousel.IsBounded ∧
    (∃ x, carousel.IsOptimum x ∧
      ∀ y, carousel.IsOptimum y → ∀ j < carousel.variableCount, y j = x j) ∧
    ¬ ∃ enough, ∀ n, enough ≤ n → ∃ r, (Solver.mk n 0 false).solve carousel = .ok r ∧
      r.solution.status = .optimal := by
  have value : ∀ {y}, carousel.Feasible y →
      carousel.valueAt y ≤ 1 / 2 - 29 * y 1 - 87 / 2 * y 3 := by
    intro y feasible
    obtain ⟨_, _, second, total⟩ := (feasible_carousel_iff y).mp feasible
    rw [valueAt_carousel]
    linarith
  let best : Point := fun j => if j = 0 ∨ j = 2 then 1 / 2 else 0
  have feasible_best : carousel.Feasible best :=
    (feasible_carousel_iff _).mpr (by norm_num [best])
  have value_best : carousel.valueAt best = 1 / 2 := by
    rw [valueAt_carousel]
    norm_num [best]
  refine ⟨rfl, ⟨best, feasible_best⟩, isBounded_carousel,
    ⟨best, ⟨feasible_best, fun y feasible better => ?_⟩, fun y optimum j inside => ?_⟩, ?_⟩
  · obtain ⟨⟨_, _, _, _⟩, _⟩ := (feasible_carousel_iff y).mp feasible
    have above : carousel.valueAt best < carousel.valueAt y := better
    linarith [value feasible]
  · have feasible := optimum.1
    have at_least : carousel.valueAt best ≤ carousel.valueAt y :=
      not_lt.mp (optimum.2 best feasible_best)
    have at_most := value feasible
    obtain ⟨⟨_, _, _, _⟩, _, second, total⟩ := (feasible_carousel_iff y).mp feasible
    rw [value_best] at at_least
    rw [valueAt_carousel] at at_least at_most
    have j_lt : j < 4 := inside
    interval_cases j <;> norm_num [best] <;> linarith
  · rintro ⟨enough, solved⟩
    obtain ⟨r, report, optimal⟩ := solved enough le_rfl
    cases optimal.symm.trans (status_carousel report)

end Solver

end LinearProgram

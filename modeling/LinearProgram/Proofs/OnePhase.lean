import LinearProgram.Proofs.Course
import LinearProgram.Report.Narration

/-!
# Problems for one phase

A problem that is accepted without two phases has upper bounds only, none of
them negative.  Nothing is multiplied by `-1` in its starting tableau, and there
are no artificial columns, so a run is one loop of pivots.  The loop looks at
the budget and at nothing else among the settings: a run with two phases is the
same run, and the tolerance matters only where its last tableau is read off.

* `Problem.validate_of_onePhase`: such a problem is accepted either way.
* `Solver.trail_eq_of_no_artificials`: its trail depends on the budget alone.
* `Solver.solve_onePhase`: two runs show the same steps, and both report the
  numbers of one tableau, each rounded by its own tolerance.
-/

namespace LinearProgram

variable {α : Type} [Scalar α]

/-! ## What two reports have in common -/

/-- The second value is the first one with zero in its place exactly if its magnitude is below the
tolerance. -/
structure Scalar.Rounded (tolerance v w : α) : Prop where
  below : Scalar.abs v < tolerance → w = 0
  other : ¬ Scalar.abs v < tolerance → w = v

/-- What a step shows beside the solution: its number, the sentence about it, its tableau, the
names of the basic variables and its pivot. -/
def Step.shown (fixed : Nat → α → String) (x : Step α) :
    Nat × String × Tableau α × List String × Option (Pivot α) :=
  (x.number, x.sentence fixed, x.tableau, x.tableau.basisNames, x.pivot?)

/-- The right-hand sides of the rows in which the first columns are basic, or zero. -/
def Tableau.levels (t : Tableau α) (count : Nat) : List α :=
  (List.range count).map fun j => (t.basicLevel j).getD 0

/-- The number in a tableau that stands for an objective with the given sense. -/
def Tableau.objectiveLevel (t : Tableau α) : Sense → α
  | .maximize => t.objective.rhs
  | .minimize => -t.objective.rhs

/-- The solution reports the numbers of a tableau, rounded by a tolerance.  The objective of an
unbounded problem is no number of the tableau. -/
structure Solution.ReadOff (x : Solution α) (tolerance : α) (p : Problem α) (t : Tableau α) :
    Prop where
  values : List.Forall₂ (Scalar.Rounded tolerance) (t.levels p.variableCount) x.values
  objective : x.status = .optimal ∨ x.status = .iterationLimitReached →
    ∃ w, x.objective = .finite w ∧
      Scalar.Rounded tolerance (t.objectiveLevel p.objective.sense) w

/-! ## Validation -/

namespace Problem

variable {p : Problem α}

theorem checkOnePhase_eq_ok_iff (c : Constraint α) :
    checkOnePhase c = .ok () ↔ c.relation = .le ∧ ¬ c.rhs < 0 := by
  unfold checkOnePhase
  split
  · next other => exact ⟨nofun, fun upper => absurd upper.1 other⟩
  · next upper =>
    split
    · next negative => exact ⟨nofun, fun both => absurd negative both.2⟩
    · next nonneg => exact ⟨fun _ => ⟨not_not.mp upper, nonneg⟩, fun _ => rfl⟩

theorem upper_of_onePhase (valid : p.validate false = .ok ()) {c : Constraint α}
    (mem : c ∈ p.constraints) : c.relation = .le ∧ ¬ c.rhs < 0 := by
  obtain ⟨_, _, _, _, constraints⟩ := (validate_eq_ok_iff p false).mp valid
  obtain ⟨_, _, _, accepted⟩ := (checkConstraint_eq_ok_iff false p.names c).mp (constraints c mem)
  exact (checkOnePhase_eq_ok_iff c).mp (accepted rfl)

/-- The checks for two phases are among those for one. -/
theorem validate_of_onePhase (valid : p.validate false = .ok ()) (twoPhase : Bool) :
    p.validate twoPhase = .ok () := by
  obtain ⟨some, names, distinct, finite, constraints⟩ := (validate_eq_ok_iff p false).mp valid
  refine (validate_eq_ok_iff p twoPhase).mpr ⟨some, names, distinct, finite, fun c mem => ?_⟩
  obtain ⟨length, coefficients, rhs, accepted⟩ :=
    (checkConstraint_eq_ok_iff false p.names c).mp (constraints c mem)
  exact (checkConstraint_eq_ok_iff twoPhase p.names c).mpr
    ⟨length, coefficients, rhs, fun _ => accepted rfl⟩

theorem artificials_layout_of_onePhase (valid : p.validate false = .ok ()) :
    p.layout.artificials = 0 := by
  unfold layout
  refine List.countP_eq_zero.mpr fun relation mem => ?_
  obtain ⟨c, c_mem, rfl⟩ := List.mem_map.mp mem
  obtain ⟨upper, nonneg⟩ := upper_of_onePhase valid c_mem
  have same : c.normalize = c := if_neg nonneg
  rw [same, upper]
  decide

end Problem

/-! ## Runs -/

namespace Solver

variable {s s' : Solver α} {p : Problem α} {t : Tableau α}

/-- Without artificial columns a trail depends on the budget and on no other setting. -/
theorem trail_eq_of_no_artificials (none : t.layout.artificials = 0)
    (budget : s'.maxIterations = s.maxIterations) : s'.trail t = s.trail t := by
  unfold trail
  rw [if_pos none, if_pos none, budget]

theorem stage_of_no_artificials (s : Solver α) (none : t.layout.artificials = 0) :
    (s.trail t).stage = .only := by
  unfold trail
  rw [if_pos none]
  exact Tableau.improve_stage .only _ _ _

theorem status_ne_infeasible_of_no_artificials (s : Solver α) (none : t.layout.artificials = 0) :
    (s.trail t).verdict.status ≠ .infeasible := by
  intro status
  obtain ⟨residual, verdict⟩ := Verdict.eq_infeasible_of_status status
  rw [(s.trail_of_no_artificials none).2] at verdict
  exact Tableau.improve_verdict_ne_infeasible _ _ _ _ _ verdict

/-! ## What is read off -/

theorem rounded_clean (s : Solver α) (v : α) : Scalar.Rounded s.tolerance v (s.clean v) :=
  ⟨fun below => if_pos below, fun other => if_neg other⟩

theorem clean_zero (s : Solver α) : s.clean 0 = 0 := ite_self _

theorem values_eq_levels (s : Solver α) (p : Problem α) (t : Tableau α) :
    s.values p t = (t.levels p.variableCount).map s.clean := by
  unfold values Tableau.levels
  rw [List.map_map]
  refine List.map_congr_left fun j _ => ?_
  show _ = s.clean ((t.basicLevel j).getD 0)
  cases t.basicLevel j with
  | none => exact s.clean_zero.symm
  | some v => rfl

theorem readOff_solution (s : Solver α) (p : Problem α) {u : Trail α} (only : u.stage = .only) :
    (s.solution p u).ReadOff s.tolerance p u.tableau := by
  constructor
  · show List.Forall₂ _ _ (s.values p u.tableau)
    rw [values_eq_levels, List.forall₂_map_right_iff, List.forall₂_same]
    exact fun v _ => s.rounded_clean v
  · intro finite
    refine ⟨s.clean (u.tableau.objectiveLevel p.objective.sense), ?_, s.rounded_clean _⟩
    have read : s.objective p u = .finite (s.clean (u.tableau.objectiveLevel
        p.objective.sense)) := by
      unfold objective Tableau.objectiveLevel
      rcases finite with optimal | limit
      · rw [Verdict.eq_optimal_of_status optimal, only]
        rfl
      · rw [Verdict.eq_limitReached_of_status limit, only]
        rfl
    exact read

/-- A problem that is accepted without two phases gets a report with either flag and any
tolerance.  Two such reports with one budget end alike and show the same steps, without artificial
columns, and both read the tableau of the last step, rounded by their own tolerance. -/
theorem solve_onePhase (valid : p.validate false = .ok ())
    (budget : s'.maxIterations = s.maxIterations) :
    ∃ r r' last, s.solve p = .ok r ∧ s'.solve p = .ok r' ∧
      r'.solution.status = r.solution.status ∧ r.solution.status ≠ .infeasible ∧
      r'.solution.iterations = r.solution.iterations ∧
      (∀ fixed, r'.steps.map (Step.shown fixed) = r.steps.map (Step.shown fixed)) ∧
      r.finalStep? = some last ∧ r.solution.ReadOff s.tolerance p last.tableau ∧
      r'.solution.ReadOff s'.tolerance p last.tableau ∧
      ∀ x ∈ r.steps ++ r'.steps, x.tableau.layout.artificials = 0 := by
  have none : (Tableau.ofProblem p).layout.artificials = 0 :=
    Problem.artificials_layout_of_onePhase valid
  have only := s.stage_of_no_artificials none
  have same := trail_eq_of_no_artificials none budget
  obtain ⟨last, final, tableau⟩ := s.report_finalStep? p (s.trail (Tableau.ofProblem p))
  refine ⟨_, _, last, s.solve_of_validate (Problem.validate_of_onePhase valid s.twoPhase),
    s'.solve_of_validate (Problem.validate_of_onePhase valid s'.twoPhase), ?_,
    s.status_ne_infeasible_of_no_artificials none, ?_, fun fixed => ?_, final, ?_, ?_, ?_⟩
  · rw [same]
    rfl
  · rw [same]
    rfl
  · -- Only the event at the end holds the solution, and its sentence leaves the values out.
    rw [report_steps, report_steps, moments, moments, same, Step.ofMoments_concat,
      Step.ofMoments_concat, List.map_append, List.map_append]
    rfl
  · rw [tableau]
    exact s.readOff_solution p only
  · rw [tableau, same]
    exact s'.readOff_solution p only
  · intro x mem
    rcases List.mem_append.mp mem with here | there
    · rw [s.layout_of_mem_steps p here, none]
    · rw [s'.layout_of_mem_steps p there, none]

/-- The best point has one value that a wide tolerance takes for zero. -/
def smallShare : Problem Rat :=
  { names := ["x1", "x2"]
    objective := ⟨[3, 2], .maximize⟩
    constraints := [⟨"share", [4, 0], .le, 1⟩, ⟨"total", [1, 1], .le, 3⟩] }

theorem solve_onePhase_smallShare :
    ∃ r r' last, (Solver.mk 10 0 false).solve smallShare = .ok r ∧
      (Solver.mk 10 1 true).solve smallShare = .ok r' ∧
      r'.solution.status = r.solution.status ∧ r.solution.status = .optimal ∧
      r'.solution.iterations = r.solution.iterations ∧ r.solution.iterations = 2 ∧
      (∀ fixed, r'.steps.map (Step.shown fixed) = r.steps.map (Step.shown fixed)) ∧
      r.finalStep? = some last ∧ r.solution.ReadOff 0 smallShare last.tableau ∧
      r'.solution.ReadOff 1 smallShare last.tableau ∧
      r.solution.values = [1 / 4, 11 / 4] ∧ r'.solution.values = [0, 11 / 4] := by
  have valid : smallShare.validate false = .ok () := rfl
  have budget : (Solver.mk 10 (1 : Rat) true).maxIterations =
      (Solver.mk 10 (0 : Rat) false).maxIterations := rfl
  obtain ⟨r, r', last, solved, solved', status, _, iterations, steps, final, readOff, readOff', _⟩
    := solve_onePhase valid budget
  exact ⟨r, r', last, solved, solved', status, status_of_solve solved (by decide +kernel),
    iterations, eq_of_solve (·.solution.iterations) solved (by decide +kernel), steps, final,
    readOff, readOff', eq_of_solve (·.solution.values) solved (by decide +kernel),
    eq_of_solve (·.solution.values) solved' (by decide +kernel)⟩

end Solver

end LinearProgram

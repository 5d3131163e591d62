import LinearProgram.Proofs.ObjectiveValue
import LinearProgram.Report.Narration

/-!
# Turning the sense round

To make an objective small is to make its negative large.  Problems that differ
in this way have one starting tableau between them, so they have one run, and
their reports differ only in the sign of the objective: of the number that is
read from the objective row or summed up anew, and of the infinity that stands
for a problem without bound or without feasible points.
-/

namespace LinearProgram

/-- The other sense. -/
def Sense.opposite : Sense → Sense
  | maximize => minimize
  | minimize => maximize

/-- The problem with the negative objective and the other sense. -/
def Problem.opposite (p : Problem Rat) : Problem Rat :=
  { p with objective := ⟨p.objective.coefficients.map (- ·), p.objective.sense.opposite⟩ }

/-- The value with the other sign, and the other infinity. -/
def Extended.negate : Extended Rat → Extended Rat
  | finite x => finite (-x)
  | posInfinity => negInfinity
  | negInfinity => posInfinity

/-- The steps show the same tableau and are told in the same words. -/
structure Step.Matches (x y : Step Rat) : Prop where
  number : y.number = x.number
  tableau : y.tableau = x.tableau
  pivot : y.pivot? = x.pivot?
  sentence : ∀ fixed : Nat → Rat → String, y.sentence fixed = x.sentence fixed

/-- The reports are of one run, of which they count the objective with opposite signs. -/
structure Report.Mirrors (r r' : Report Rat) : Prop where
  status : r'.solution.status = r.solution.status
  values : r'.solution.values = r.solution.values
  iterations : r'.solution.iterations = r.solution.iterations
  objective : r'.solution.objective = r.solution.objective.negate
  steps : List.Forall₂ Step.Matches r.steps r'.steps

namespace Problem

variable (p : Problem Rat)

@[simp] theorem variableCount_opposite : p.opposite.variableCount = p.variableCount := by
  simp [variableCount, opposite]

/-- Exact numbers are all finite. -/
theorem checkFinite_eq_ok (location : String → Location) (values : List (String × Rat)) :
    checkFinite location values = .ok () :=
  (checkFinite_eq_ok_iff location values).mpr fun _ _ => rfl

theorem validate_opposite {twoPhase : Bool} (valid : p.validate twoPhase = .ok ()) :
    p.opposite.validate twoPhase = .ok () := by
  obtain ⟨some, names, distinct, _, constraints⟩ := (validate_eq_ok_iff p twoPhase).mp valid
  rw [validate_eq_ok_iff, variableCount_opposite]
  exact ⟨some, names, distinct, checkFinite_eq_ok _ _, constraints⟩

end Problem

/-- Both problems start from the same tableau. -/
theorem Tableau.ofProblem_opposite (p : Problem Rat) : ofProblem p.opposite = ofProblem p := by
  have objective : startObjective p.layout p.opposite.objective =
      startObjective p.layout p.objective := by
    unfold startObjective Problem.opposite
    cases p.objective.sense with
    | maximize => rfl
    | minimize => simp [Sense.opposite]
  unfold ofProblem
  rw [← objective]
  rfl

namespace Solver

variable (s : Solver Rat) (p : Problem Rat)

theorem clean_neg (v : Rat) : s.clean (-v) = -s.clean v := by
  unfold clean
  rw [Scalar.abs_eq, Scalar.abs_eq, abs_neg]
  split
  · exact neg_zero.symm
  · rfl

theorem values_opposite (t : Tableau Rat) : s.values p.opposite t = s.values p t := by
  unfold values
  rw [p.variableCount_opposite]

theorem weightedSum_neg {coefficients values : List Rat}
    (length : coefficients.length = values.length) :
    weightedSum (coefficients.map (- ·)) values = -weightedSum coefficients values := by
  rw [weightedSum_eq length, weightedSum_eq (by rw [List.length_map, length]), dot_map_neg]

theorem objective_opposite (t : Trail Rat) :
    s.objective p.opposite t = (s.objective p t).negate := by
  have length : p.objective.coefficients.length = (s.values p t.tableau).length := by
    simp [values, Problem.variableCount]
  have summed : weightedSum p.opposite.objective.coefficients (s.values p.opposite t.tableau) =
      -weightedSum p.objective.coefficients (s.values p t.tableau) := by
    rw [values_opposite]
    exact weightedSum_neg length
  have read : (match p.opposite.objective.sense with
      | .maximize => t.tableau.objective.rhs
      | .minimize => -t.tableau.objective.rhs) =
      -(match p.objective.sense with
      | .maximize => t.tableau.objective.rhs
      | .minimize => -t.tableau.objective.rhs) := by
    unfold Problem.opposite
    cases p.objective.sense with
    | maximize => rfl
    | minimize => exact (neg_neg _).symm
  have value : s.clean (if t.stage = .first then
        weightedSum p.opposite.objective.coefficients (s.values p.opposite t.tableau)
      else match p.opposite.objective.sense with
        | .maximize => t.tableau.objective.rhs
        | .minimize => -t.tableau.objective.rhs) =
      -s.clean (if t.stage = .first then
        weightedSum p.objective.coefficients (s.values p t.tableau)
      else match p.objective.sense with
        | .maximize => t.tableau.objective.rhs
        | .minimize => -t.tableau.objective.rhs) := by
    rw [summed, read, ← clean_neg]
    split <;> rfl
  unfold objective
  cases t.verdict with
  | optimal | limitReached => exact congrArg Extended.finite value
  | unbounded | infeasible =>
    unfold Problem.opposite
    cases p.objective.sense <;> rfl

/-- A problem and the one with the negative objective and the other sense get reports of one run,
which only count the objective with opposite signs. -/
theorem solve_opposite (valid : p.validate s.twoPhase = .ok ()) :
    ∃ r r', s.solve p = .ok r ∧ s.solve p.opposite = .ok r' ∧ r.Mirrors r' := by
  refine ⟨_, _, s.solve_of_validate valid, s.solve_of_validate (p.validate_opposite valid), ?_⟩
  rw [Tableau.ofProblem_opposite]
  refine ⟨rfl, s.values_opposite p _, rfl, s.objective_opposite p _, ?_⟩
  rw [report_steps, report_steps, moments, moments, Step.ofMoments_concat, Step.ofMoments_concat]
  have earlier : ∀ x ∈ Step.ofMoments (s.trail (Tableau.ofProblem p)).moments, x.Matches x :=
    fun _ _ => ⟨rfl, rfl, rfl, fun _ => rfl⟩
  -- Only the event that announces the solution tells of the objective, and its sentence does not.
  exact List.rel_append (List.forall₂_same.mpr earlier)
    (.cons ⟨rfl, rfl, rfl, fun _ => rfl⟩ .nil)

/-- A cheapest mixture, for which both phases are needed. -/
def mixture : Problem Rat :=
  { names := ["x1", "x2"]
    objective := ⟨[2, 3], .minimize⟩
    constraints := [⟨"amount", [1, 1], .eq, 10⟩, ⟨"quality", [1, 4], .ge, 22⟩] }

theorem solve_opposite_mixture :
    ∃ r r', (Solver.mk 10 (1 / 10 ^ 9) true).solve mixture = .ok r ∧
      (Solver.mk 10 (1 / 10 ^ 9) true).solve mixture.opposite = .ok r' ∧ r.Mirrors r' ∧
      mixture.opposite.objective.sense = .maximize ∧ r.solution.status = .optimal ∧
      r.solution.objective = .finite 24 ∧ r'.solution.objective = .finite (-24) := by
  obtain ⟨r, r', solved, solved', mirrors⟩ :=
    solve_opposite (Solver.mk 10 (1 / 10 ^ 9) true) mixture rfl
  have objective : r.solution.objective = .finite 24 :=
    eq_of_solve (·.solution.objective) solved (by decide +kernel)
  exact ⟨r, r', solved, solved', mirrors, rfl, status_of_solve solved (by decide +kernel),
    objective, mirrors.objective.trans (congrArg Extended.negate objective)⟩

end Solver

end LinearProgram

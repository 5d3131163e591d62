import Mathlib.Logic.Relation
import LinearProgram.Solver.Run

/-!
# What a run goes through

Whatever the arithmetic does, a run of the loop only goes from a tableau to one
of its pivots, at a column and a row that the two rules chose.  `LoopStep` is
one such step and `LoopReach` any number of them, so that a property which every
step keeps holds at the end of every run.

* `Tableau.reach_improve`: the loop ends in a tableau that it reached.
* `Tableau.improve_verdict_cases`: each verdict comes with the reason for it.
* `Solver.trail_cases`: the three ways on from the end of the first phase.
* `Solver.solve_of_validate`: a sound problem always gets a report.
-/

namespace LinearProgram

variable {α : Type}

namespace Verdict

theorem eq_optimal_of_status {v : Verdict α} (status : v.status = .optimal) : v = .optimal := by
  cases v with
  | optimal => rfl
  | unbounded c => cases status
  | infeasible r => cases status
  | limitReached => cases status

theorem eq_unbounded_of_status {v : Verdict α} (status : v.status = .unbounded) :
    ∃ c, v = .unbounded c := by
  cases v with
  | optimal => cases status
  | unbounded c => exact ⟨c, rfl⟩
  | infeasible r => cases status
  | limitReached => cases status

theorem eq_infeasible_of_status {v : Verdict α} (status : v.status = .infeasible) :
    ∃ r, v = .infeasible r := by
  cases v with
  | optimal => cases status
  | unbounded c => cases status
  | infeasible r => exact ⟨r, rfl⟩
  | limitReached => cases status

theorem eq_limitReached_of_status {v : Verdict α} (status : v.status = .iterationLimitReached) :
    v = .limitReached := by
  cases v with
  | optimal => cases status
  | unbounded c => cases status
  | infeasible r => cases status
  | limitReached => rfl

/-- The verdict of a run that found the problem to have feasible points. -/
def Accepts (v : Verdict α) : Prop := v.status = .optimal ∨ v.status = .unbounded

theorem accepts_or (v : Verdict α) :
    v.Accepts ∨ v.status = .infeasible ∨ v.status = .iterationLimitReached := by
  cases v with
  | optimal => exact Or.inl (Or.inl rfl)
  | unbounded c => exact Or.inl (Or.inr rfl)
  | infeasible r => exact Or.inr (Or.inl rfl)
  | limitReached => exact Or.inr (Or.inr rfl)

theorem not_accepts_infeasible (r : α) : ¬ (infeasible r).Accepts := by
  rintro (status | status) <;> cases status

theorem not_accepts_limitReached : ¬ (limitReached : Verdict α).Accepts := by
  rintro (status | status) <;> cases status

end Verdict

variable [Scalar α]

namespace Tableau

/-- One pivot of the loop, at the column and the row that the rules choose. -/
inductive LoopStep (withArtificials : Bool) : Tableau α → Tableau α → Prop
  | pivot {t : Tableau α} {c i : Nat} :
    t.enteringColumn withArtificials = some c → t.leavingRow c = some i →
    LoopStep withArtificials t (t.pivot i c)

/-- Any number of pivots of the loop. -/
abbrev LoopReach (withArtificials : Bool) : Tableau α → Tableau α → Prop :=
  Relation.ReflTransGen (LoopStep withArtificials)

/-- A property that one pivot keeps is kept by any number of them. -/
theorem LoopReach.keeps {withArtificials : Bool} {P : Tableau α → Prop} {t u : Tableau α}
    (reach : LoopReach withArtificials t u)
    (step : ∀ {v w}, LoopStep withArtificials v w → P v → P w) (start : P t) : P u := by
  induction reach with
  | refl => exact start
  | tail _ last ih => exact step last ih

theorem reach_improve (stage : Stage) (budget iterations : Nat) (t : Tableau α) :
    LoopReach (stage == .first) t (t.improve stage budget iterations).tableau := by
  induction budget generalizing iterations t with
  | zero =>
    unfold improve
    split <;> exact .refl
  | succ budget ih =>
    unfold improve
    split
    · exact .refl
    · next c entering =>
      split
      · exact .refl
      · next i leaving => exact .head (.pivot entering leaving) (ih _ _)

/-- The loop stops because no column enters, because no row leaves, or because the budget is
spent, and its verdict says which. -/
theorem improve_verdict_cases (stage : Stage) (budget iterations : Nat) (t : Tableau α) :
    ((t.improve stage budget iterations).verdict = .optimal ∧
      (t.improve stage budget iterations).tableau.enteringColumn (stage == .first) = none) ∨
    (∃ c, (t.improve stage budget iterations).verdict = .unbounded c ∧
      (t.improve stage budget iterations).tableau.enteringColumn (stage == .first) = some c ∧
      (t.improve stage budget iterations).tableau.leavingRow c = none) ∨
    (t.improve stage budget iterations).verdict = .limitReached := by
  induction budget generalizing iterations t with
  | zero =>
    unfold improve
    split
    · next none_enters => exact Or.inl ⟨rfl, none_enters⟩
    · exact Or.inr (Or.inr rfl)
  | succ budget ih =>
    unfold improve
    split
    · next none_enters => exact Or.inl ⟨rfl, none_enters⟩
    · next c entering =>
      split
      · next none_leaves => exact Or.inr (Or.inl ⟨c, rfl, entering, none_leaves⟩)
      · exact ih _ _

/-- The loop itself calls nothing infeasible. -/
theorem improve_verdict_ne_infeasible (stage : Stage) (budget iterations : Nat) (t : Tableau α)
    (residual : α) : (t.improve stage budget iterations).verdict ≠ .infeasible residual := by
  intro verdict
  rcases improve_verdict_cases stage budget iterations t with
    ⟨other, _⟩ | ⟨_, other, _⟩ | other
  all_goals cases other.symm.trans verdict

end Tableau

namespace Solver

/-- The first phase, from a starting tableau with artificial variables. -/
def firstPhase (s : Solver α) (t : Tableau α) : Trail α :=
  t.priceArtificials.improve .first s.maxIterations 0

/-- What the first phase leaves of the artificial variables, as read from its objective row. -/
def residual (s : Solver α) (t : Tableau α) : α := -(s.firstPhase t).tableau.objective.rhs

/-- The tableau after artificial variables have been driven out of the first phase's last one. -/
def drivenOut (s : Solver α) (t : Tableau α) : Tableau α :=
  ((s.firstPhase t).tableau.driveOut s.tolerance (s.firstPhase t).iterations
    (List.range (s.firstPhase t).tableau.constraintCount)).2

/-- What is recorded while they are driven out. -/
def exchanges (s : Solver α) (t : Tableau α) : List (Moment α) :=
  ((s.firstPhase t).tableau.driveOut s.tolerance (s.firstPhase t).iterations
    (List.range (s.firstPhase t).tableau.constraintCount)).1

/-- The loop of the second phase, from a starting tableau with artificial variables. -/
def secondLoop (s : Solver α) (t : Tableau α) : Trail α :=
  ((s.drivenOut t).loadObjective t.objective.cells).improve .second
    (s.maxIterations - (s.firstPhase t).iterations) (s.firstPhase t).iterations

/-- Without artificial columns a run is one loop. -/
theorem trail_of_no_artificials (s : Solver α) {t : Tableau α}
    (none : t.layout.artificials = 0) :
    (s.trail t).tableau = (t.improve .only s.maxIterations 0).tableau ∧
      (s.trail t).verdict = (t.improve .only s.maxIterations 0).verdict := by
  unfold trail
  rw [if_pos none]
  exact ⟨rfl, rfl⟩

section BothPhases

variable {s : Solver α} {t : Tableau α}

theorem bothPhases_of_limitReached (limit : (s.firstPhase t).verdict = .limitReached) :
    s.bothPhases t = (s.firstPhase t).after [⟨.priceArtificials, t.priceArtificials⟩] := by
  unfold bothPhases
  dsimp only
  split
  · rfl
  · next other => exact absurd limit other

theorem bothPhases_of_above (finished : (s.firstPhase t).verdict ≠ .limitReached)
    (above : s.tolerance * t.rhsScale < s.residual t) :
    s.bothPhases t = Trail.after [⟨.priceArtificials, t.priceArtificials⟩]
      { s.firstPhase t with verdict := .infeasible (s.residual t) } := by
  unfold bothPhases
  dsimp only
  split
  · next limit => exact absurd limit finished
  · exact congrArg (Trail.after _) (if_pos above)

theorem bothPhases_of_within (finished : (s.firstPhase t).verdict ≠ .limitReached)
    (within : ¬ s.tolerance * t.rhsScale < s.residual t) :
    s.bothPhases t = Trail.after [⟨.priceArtificials, t.priceArtificials⟩]
      ((s.secondPhase t.objective.cells (s.firstPhase t).iterations
        (s.firstPhase t).tableau).after (s.firstPhase t).moments) := by
  unfold bothPhases
  dsimp only
  split
  · next limit => exact absurd limit finished
  · exact congrArg (Trail.after _) (if_neg within)

/-- The first phase runs out of budget, or leaves too much of the artificial variables, or hands
over to the second phase. -/
theorem bothPhases_cases (s : Solver α) (t : Tableau α) :
    ((s.firstPhase t).verdict = .limitReached ∧
      s.bothPhases t = (s.firstPhase t).after [⟨.priceArtificials, t.priceArtificials⟩]) ∨
    ((s.firstPhase t).verdict ≠ .limitReached ∧ s.tolerance * t.rhsScale < s.residual t ∧
      s.bothPhases t = Trail.after [⟨.priceArtificials, t.priceArtificials⟩]
        { s.firstPhase t with verdict := .infeasible (s.residual t) }) ∨
    ((s.firstPhase t).verdict ≠ .limitReached ∧ ¬ s.tolerance * t.rhsScale < s.residual t ∧
      s.bothPhases t = Trail.after [⟨.priceArtificials, t.priceArtificials⟩]
        ((s.secondPhase t.objective.cells (s.firstPhase t).iterations
          (s.firstPhase t).tableau).after (s.firstPhase t).moments)) := by
  rcases Classical.em ((s.firstPhase t).verdict = .limitReached) with limit | finished
  · exact Or.inl ⟨limit, bothPhases_of_limitReached limit⟩
  · by_cases above : s.tolerance * t.rhsScale < s.residual t
    · exact Or.inr (Or.inl ⟨finished, above, bothPhases_of_above finished above⟩)
    · exact Or.inr (Or.inr ⟨finished, above, bothPhases_of_within finished above⟩)

end BothPhases

/-- With artificial columns a run ends as one of the three ways out of the first phase does. -/
theorem trail_cases (s : Solver α) {t : Tableau α} (some : t.layout.artificials ≠ 0) :
    ((s.firstPhase t).verdict = .limitReached ∧ (s.trail t).verdict = .limitReached) ∨
    ((s.firstPhase t).verdict ≠ .limitReached ∧ s.tolerance * t.rhsScale < s.residual t ∧
      (s.trail t).verdict = .infeasible (s.residual t)) ∨
    ((s.firstPhase t).verdict ≠ .limitReached ∧ ¬ s.tolerance * t.rhsScale < s.residual t ∧
      (s.trail t).tableau = (s.secondLoop t).tableau ∧
      (s.trail t).verdict = (s.secondLoop t).verdict) := by
  unfold trail
  rw [if_neg some]
  rcases s.bothPhases_cases t with ⟨limit, eq⟩ | ⟨other, above, eq⟩ | ⟨other, within, eq⟩
  · exact Or.inl ⟨limit, eq ▸ limit⟩
  · exact Or.inr (Or.inl ⟨other, above, by rw [eq]; rfl⟩)
  · exact Or.inr (Or.inr ⟨other, within, by rw [eq]; rfl, by rw [eq]; rfl⟩)

/-- A run is called unbounded where its loop, outside the first phase, has found a column that can
enter and no row that can leave. -/
theorem trail_unbounded {s : Solver α} {t : Tableau α} {c : Nat}
    (verdict : (s.trail t).verdict = .unbounded c) :
    (s.trail t).tableau.enteringColumn false = some c ∧
      (s.trail t).tableau.leavingRow c = none := by
  have stopped : ∀ {stage : Stage} {budget n : Nat} {u : Tableau α},
      (u.improve stage budget n).verdict = .unbounded c →
      (u.improve stage budget n).tableau.enteringColumn (stage == .first) = some c ∧
        (u.improve stage budget n).tableau.leavingRow c = none := by
    intro stage budget n u verdict
    rcases Tableau.improve_verdict_cases stage budget n u with
      ⟨other, _⟩ | ⟨d, found, entering, leaving⟩ | other
    · cases other.symm.trans verdict
    · cases found.symm.trans verdict
      exact ⟨entering, leaving⟩
    · cases other.symm.trans verdict
  by_cases real : t.layout.artificials = 0
  · obtain ⟨tableau, same⟩ := s.trail_of_no_artificials real
    rw [tableau]
    exact stopped (same.symm.trans verdict)
  · rcases s.trail_cases real with ⟨_, other⟩ | ⟨_, _, other⟩ | ⟨_, _, tableau, same⟩
    · cases other.symm.trans verdict
    · cases other.symm.trans verdict
    · rw [tableau]
      exact stopped (same.symm.trans verdict)

/-- A run that comes to the second phase has recorded all that led there. -/
theorem moments_trail_of_within (s : Solver α) {t : Tableau α} (some : t.layout.artificials ≠ 0)
    (finished : (s.firstPhase t).verdict ≠ .limitReached)
    (within : ¬ s.tolerance * t.rhsScale < s.residual t) :
    (s.trail t).moments = [⟨.start, t⟩, ⟨.priceArtificials, t.priceArtificials⟩] ++
      ((s.firstPhase t).moments ++ s.exchanges t ++
        [⟨.restoreObjective, (s.drivenOut t).loadObjective t.objective.cells⟩]) ++
      (s.secondLoop t).moments := by
  have second : (s.secondPhase t.objective.cells (s.firstPhase t).iterations
      (s.firstPhase t).tableau).moments = s.exchanges t ++
        [⟨.restoreObjective, (s.drivenOut t).loadObjective t.objective.cells⟩] ++
        (s.secondLoop t).moments := rfl
  unfold trail
  rw [if_neg some, bothPhases_of_within finished within]
  simp only [Trail.after, second, List.append_assoc, List.cons_append, List.nil_append]

/-! ## Reports -/

/-- A sound problem always gets a report, and it is the one on its trail. -/
theorem solve_of_validate (s : Solver α) {p : Problem α}
    (valid : p.validate s.twoPhase = .ok ()) :
    s.solve p = .ok (s.report p (s.trail (Tableau.ofProblem p))) := by
  unfold solve Problem.tableau
  rw [valid]
  rfl

theorem report_status (s : Solver α) (p : Problem α) (t : Trail α) :
    (s.report p t).solution.status = t.verdict.status := rfl

/-- What a report says, from a run that has been carried out. -/
theorem eq_of_solve {β : Type} (f : Report α → β) {s : Solver α} {p : Problem α} {r : Report α}
    {x : β} (solved : s.solve p = .ok r) (found : (s.solve p).toOption.map f = some x) :
    f r = x := by
  rw [solved] at found
  exact Option.some.inj found

theorem status_of_solve {s : Solver α} {p : Problem α} {r : Report α} {status : Status}
    (solved : s.solve p = .ok r)
    (found : (s.solve p).toOption.map (·.solution.status) = some status) :
    r.solution.status = status :=
  eq_of_solve (·.solution.status) solved found

/-- The objective of a run that is neither unbounded nor infeasible is read from the objective row,
unless the run has stopped in the first phase. -/
theorem objective_of_settled (s : Solver α) (p : Problem α) {t : Trail α}
    (settled : t.verdict.status = .optimal ∨ t.verdict.status = .iterationLimitReached) :
    s.objective p t = .finite (s.clean
      (if t.stage = .first then weightedSum p.objective.coefficients (s.values p t.tableau)
      else match p.objective.sense with
        | .maximize => t.tableau.objective.rhs
        | .minimize => -t.tableau.objective.rhs)) := by
  unfold objective
  cases verdict : t.verdict with
  | optimal | limitReached => cases p.objective.sense <;> rfl
  | unbounded _ | infeasible _ =>
    rw [verdict] at settled
    rcases settled with status | status <;> cases status

/-- The last step of a report is the end of the trail. -/
theorem finalStep?_report (s : Solver α) (p : Problem α) (t : Trail α) :
    (s.report p t).finalStep? =
      some ⟨t.moments.length + 1, .finish t.verdict (s.solution p t), t.tableau⟩ := by
  unfold Report.finalStep? report Step.ofMoments
  rw [List.getLast?_eq_getElem?, List.getElem?_mapIdx, List.length_mapIdx, List.length_append,
    List.length_singleton, Nat.add_sub_cancel, List.getElem?_concat_length]
  rfl

theorem report_finalStep? (s : Solver α) (p : Problem α) (t : Trail α) :
    ∃ last, (s.report p t).finalStep? = some last ∧ last.tableau = t.tableau :=
  ⟨_, s.finalStep?_report p t, rfl⟩

end Solver

end LinearProgram

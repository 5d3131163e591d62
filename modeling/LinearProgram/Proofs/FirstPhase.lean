import LinearProgram.Proofs.Encoding
import LinearProgram.Proofs.Pricing
import LinearProgram.Proofs.Reach

/-!
# The first phase

The objective row of the first phase says what the artificial variables sum to,
with its sign turned: at the start because it is priced that way, and later
because pivots only rewrite it.  Two things follow.  The sum is never negative
where no variable is, so the loop cannot run off along a ray; and when it stops
for lack of a column to enter, no admitted point has a smaller sum than the
basic one.
-/

namespace LinearProgram

namespace Tableau

/-- A point that is not negative in any variable column and satisfies every row. -/
def Admits (t : Tableau Rat) (y : Point) : Prop :=
  (∀ j < t.layout.width, 0 ≤ y j) ∧ t.SatisfiedBy y

theorem IsVertex.admits_point {t : Tableau Rat} (vertex : t.IsVertex) : t.Admits t.point :=
  ⟨fun j _ => vertex.point_nonneg j, vertex.solved.satisfiedBy_point⟩

/-- A feasible point of a problem, extended, is admitted by the starting tableau. -/
theorem admits_extend {p : Problem Rat} {x : Point} (sized : p.WellSized)
    (feasible : p.Feasible x) : (ofProblem p).Admits (p.extend x) :=
  ⟨fun j _ => p.extend_nonneg sized feasible j, p.satisfiedBy_extend sized feasible⟩

theorem Equivalent.admits_iff {t u : Tableau Rat} (same : t.Equivalent u) (y : Point) :
    u.Admits y ↔ t.Admits y := by
  unfold Admits
  rw [same.layout, same.satisfiedBy_iff]

/-- The loop leads from a vertex to equivalent vertices only. -/
theorem IsVertex.reach {t u : Tableau Rat} {withArtificials : Bool} (vertex : t.IsVertex)
    (reach : LoopReach withArtificials t u) : u.IsVertex ∧ t.Equivalent u := by
  refine reach.keeps (P := fun v => v.IsVertex ∧ t.Equivalent v) (fun step kept => ?_)
    ⟨vertex, .refl t⟩
  obtain ⟨v_vertex, same⟩ := kept
  cases step with
  | pivot entering leaving =>
    have column := enteringColumn_eq_some_iff.mp entering
    have inside := column.inside.trans_le (enteringCount_le _ _)
    obtain ⟨next, step_same⟩ := v_vertex.pivot inside leaving
    exact ⟨next, same.trans step_same⟩

/-- An objective row without a negative entry gives no admitted point more than its right-hand
side. -/
theorem gap_le_rhs {t : Tableau Rat} {y : Point}
    (terms : ∀ j < t.objective.cells.length, 0 ≤ t.objective.entry j * y j) :
    t.objective.gap y ≤ t.objective.rhs := by
  have nonneg : 0 ≤ dot t.objective.cells y := dot_nonneg terms
  unfold Row.gap
  linarith

/-- What a column that can enter says about a vertex: it is not basic. -/
theorem IsVertex.entering {t : Tableau Rat} (vertex : t.IsVertex) {withArtificials : Bool}
    {c : Nat} (entering : t.enteringColumn withArtificials = some c) :
    c < t.enteringCount withArtificials ∧ c < t.layout.width ∧ t.objective.entry c < 0 ∧
      t.Nonbasic c := by
  have column := enteringColumn_eq_some_iff.mp entering
  exact ⟨column.inside, column.inside.trans_le (enteringCount_le _ _), column.negative,
    vertex.canonical.nonbasic column.negative.ne⟩

/-- Where a column can enter and no row can leave, there are admitted points of any value. -/
theorem IsVertex.admits_along {t : Tableau Rat} (vertex : t.IsVertex) {withArtificials : Bool}
    {c : Nat} (entering : t.enteringColumn withArtificials = some c)
    (leaving : t.leavingRow c = none) {amount : Rat} (nonneg : 0 ≤ amount) :
    t.Admits (t.along c amount) := by
  obtain ⟨_, inside, _, nonbasic⟩ := vertex.entering entering
  have column := leavingRow_eq_none_iff.mp leaving
  exact ⟨fun j _ => vertex.feasible.along_nonneg vertex.solved nonbasic column nonneg j,
    vertex.solved.satisfiedBy_along nonbasic inside amount⟩

/-- Far enough along the ray, the objective row exceeds any bound. -/
theorem IsVertex.exists_along {t : Tableau Rat} (vertex : t.IsVertex) {withArtificials : Bool}
    {c : Nat} (entering : t.enteringColumn withArtificials = some c) (bound : Rat) :
    ∃ amount, 0 ≤ amount ∧ bound < t.objective.gap (t.along c amount) := by
  obtain ⟨_, inside, negative, nonbasic⟩ := vertex.entering entering
  have slope : 0 < -t.objective.entry c := neg_pos.mpr negative
  refine ⟨|bound - t.objective.rhs + 1| / -t.objective.entry c,
    div_nonneg (abs_nonneg _) slope.le, ?_⟩
  rw [vertex.canonical.gap_objective_along nonbasic inside]
  have distance : |bound - t.objective.rhs + 1| / -t.objective.entry c * -t.objective.entry c =
      |bound - t.objective.rhs + 1| := div_mul_cancel₀ _ slope.ne'
  have reached := le_abs_self (bound - t.objective.rhs + 1)
  linarith

end Tableau

/-! ## The sum of the artificial variables -/

theorem Layout.artificialSum_nonneg {l : Layout} {y : Point} (nonneg : ∀ j < l.width, 0 ≤ y j) :
    0 ≤ l.artificialSum y := by
  refine Finset.sum_nonneg fun k mem => nonneg _ ?_
  exact Nat.add_lt_add_left (Finset.mem_range.mp mem) _

/-- No artificial variable exceeds their sum. -/
theorem Layout.le_artificialSum {l : Layout} {y : Point} (nonneg : ∀ j < l.width, 0 ≤ y j)
    {k : Nat} (inside : k < l.artificials) : y (l.artificialColumn k) ≤ l.artificialSum y :=
  Finset.single_le_sum (f := fun k => y (l.artificialColumn k))
    (fun _ mem => nonneg _ (Nat.add_lt_add_left (Finset.mem_range.mp mem) _))
    (Finset.mem_range.mpr inside)

/-- Artificial variables that sum to nothing are zero, each of them. -/
theorem Layout.artificial_eq_zero {l : Layout} {y : Point} (nonneg : ∀ j < l.width, 0 ≤ y j)
    (sum_le : l.artificialSum y ≤ 0) {k : Nat} (inside : k < l.artificials) :
    y (l.artificialColumn k) = 0 :=
  le_antisymm ((Layout.le_artificialSum nonneg inside).trans sum_le)
    (nonneg _ (Nat.add_lt_add_left inside _))

theorem dot_artificialCosts (l : Layout) (y : Point) :
    dot (Tableau.artificialCosts l) y = l.artificialSum y := by
  have ones : ∀ (n : Nat) (z : Point), dot (List.replicate n 1) z = ∑ k ∈ Finset.range n, z k := by
    intro n z
    unfold dot
    rw [List.length_replicate]
    refine Finset.sum_congr rfl fun k mem => ?_
    rw [List.getD_replicate _ (Finset.mem_range.mp mem), one_mul]
  have split : dot (Tableau.artificialCosts l) y =
      dot (zeros l.realCount ++ List.replicate l.artificials 1) y := rfl
  rw [split, dot_append, dot_zeros, zero_add, ones]
  unfold zeros Layout.artificialSum
  rw [List.length_replicate]
  rfl

/-! ## Its course -/

namespace Solver

open Tableau

variable {p : Problem Rat}

theorem isVertex_priceArtificials (sized : p.WellSized) :
    (ofProblem p).priceArtificials.IsVertex :=
  (isVertex_ofProblem sized).loadObjective (length_artificialCosts _)

theorem reach_firstPhase (s : Solver Rat) (sized : p.WellSized) :
    (s.firstPhase (ofProblem p)).tableau.IsVertex ∧
      (ofProblem p).priceArtificials.Equivalent (s.firstPhase (ofProblem p)).tableau :=
  (isVertex_priceArtificials sized).reach (reach_improve .first s.maxIterations 0 _)

theorem admits_firstPhase_iff (s : Solver Rat) (sized : p.WellSized) (y : Point) :
    (s.firstPhase (ofProblem p)).tableau.Admits y ↔ (ofProblem p).Admits y :=
  (s.reach_firstPhase sized).2.admits_iff y

/-- All through the first phase the objective row gives the sum of the artificial variables, with
its sign turned. -/
theorem gap_of_priced (sized : p.WellSized) {t : Tableau Rat}
    (same : (ofProblem p).priceArtificials.Equivalent t) {y : Point}
    (satisfied : (ofProblem p).SatisfiedBy y) :
    t.objective.gap y = -p.layout.artificialSum y := by
  have loaded := (solved_ofProblem sized).gap_loadObjective (length_artificialCosts _) satisfied
  rw [same.gap_objective satisfied]
  exact loaded.trans (congrArg (-·) (dot_artificialCosts _ y))

/-- At a vertex of the first phase, the right-hand side of the objective row is that sum. -/
theorem artificialSum_point (sized : p.WellSized) {t : Tableau Rat} (vertex : t.IsVertex)
    (same : (ofProblem p).priceArtificials.Equivalent t) :
    p.layout.artificialSum t.point = -t.objective.rhs := by
  have satisfied := (same.satisfiedBy_iff _).mp vertex.solved.satisfiedBy_point
  rw [← vertex.canonical.gap_objective_point, gap_of_priced sized same satisfied, neg_neg]

theorem gap_firstPhase (s : Solver Rat) (sized : p.WellSized) {y : Point}
    (satisfied : (ofProblem p).SatisfiedBy y) :
    (s.firstPhase (ofProblem p)).tableau.objective.gap y = -p.layout.artificialSum y :=
  gap_of_priced sized (s.reach_firstPhase sized).2 satisfied

/-- The residual is what the artificial variables sum to at the last vertex of the phase. -/
theorem residual_eq (s : Solver Rat) (sized : p.WellSized) :
    s.residual (ofProblem p) =
      p.layout.artificialSum (s.firstPhase (ofProblem p)).tableau.point := by
  obtain ⟨vertex, same⟩ := s.reach_firstPhase sized
  exact (artificialSum_point sized vertex same).symm

/-- Where a column can enter in the first phase, a row can leave.  Else there would be a ray on
which the artificial variables sum to less than nothing. -/
theorem leavingRow_ne_none_of_priced (sized : p.WellSized) {t : Tableau Rat} (vertex : t.IsVertex)
    (same : (ofProblem p).priceArtificials.Equivalent t) {withArtificials : Bool} {c : Nat}
    (entering : t.enteringColumn withArtificials = some c) : t.leavingRow c ≠ none := by
  intro leaving
  obtain ⟨amount, nonneg, above⟩ := vertex.exists_along entering 0
  have admits : (ofProblem p).Admits (t.along c amount) :=
    (same.admits_iff _).mp (vertex.admits_along entering leaving nonneg)
  have sum_nonneg := Layout.artificialSum_nonneg admits.1
  rw [gap_of_priced sized same admits.2] at above
  exact absurd above (not_lt.mpr (neg_nonpos.mpr sum_nonneg))

/-- So the first phase does not end unbounded. -/
theorem firstPhase_verdict_cases (s : Solver Rat) (sized : p.WellSized) :
    ((s.firstPhase (ofProblem p)).verdict = .optimal ∧
      (s.firstPhase (ofProblem p)).tableau.enteringColumn true = none) ∨
    (s.firstPhase (ofProblem p)).verdict = .limitReached := by
  obtain ⟨vertex, same⟩ := s.reach_firstPhase sized
  rcases improve_verdict_cases .first s.maxIterations 0 (ofProblem p).priceArtificials with
    optimal | ⟨c, _, entering, leaving⟩ | limit
  · exact Or.inl optimal
  · exact absurd leaving (leavingRow_ne_none_of_priced sized vertex same entering)
  · exact Or.inr limit

/-- A first phase that did not run out of budget has made the artificial variables as small as
they can be. -/
theorem residual_le (s : Solver Rat) (sized : p.WellSized)
    (finished : (s.firstPhase (ofProblem p)).verdict ≠ .limitReached) {y : Point}
    (admits : (ofProblem p).Admits y) :
    s.residual (ofProblem p) ≤ p.layout.artificialSum y := by
  obtain ⟨vertex, same⟩ := s.reach_firstPhase sized
  rcases s.firstPhase_verdict_cases sized with ⟨_, none_enters⟩ | limit
  · have costs := enteringColumn_eq_none_iff.mp none_enters
    have bound : (s.firstPhase (ofProblem p)).tableau.objective.gap y ≤
        (s.firstPhase (ofProblem p)).tableau.objective.rhs := by
      refine gap_le_rhs fun j inside => ?_
      rw [vertex.canonical.objective_width] at inside
      exact mul_nonneg (costs j inside) (admits.1 j (same.layout ▸ inside))
    rw [s.gap_firstPhase sized admits.2] at bound
    unfold residual
    linarith
  · exact absurd limit finished

end Solver

end LinearProgram

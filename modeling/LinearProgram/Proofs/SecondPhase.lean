import LinearProgram.Proofs.DriveOut

/-!
# The second phase

At tolerance zero the loop of the problem's own objective starts *detached*:
every basic artificial variable is zero and stays out of all real columns.  The
loop only lets real columns enter, so it stays detached.  Its basic points are
then points of the problem itself, and so are the points on a ray along which a
real variable grows.

* `Tableau.Detached.reach`: what the loop keeps.
* `Tableau.Detached.isOptimum_point`: where no column enters, the point is best.
* `Tableau.Detached.isUnbounded`: where no row leaves, there is no best point.
* `Solver.concludes_trail`: how a run ends that reached this loop.
-/

namespace LinearProgram

namespace Tableau

/-- A vertex whose artificial variables are zero and cannot become anything else while only real
columns enter. -/
structure Detached (t : Tableau Rat) : Prop where
  vertex : t.IsVertex
  artificials_zero : t.ArtificialsZero
  settled : ∀ i, t.Settled i

variable {t u : Tableau Rat} {c i : Nat}

/-! ## What the loop keeps -/

/-- The row of an artificial variable has no entry in a real column, so a pivot there passes it
by. -/
theorem ArtificialsZero.pivot_of_settled (artificials : t.ArtificialsZero)
    (settled : ∀ i, t.Settled i) {r : BasicRow Rat} (at_i : t.rows[i]? = some r)
    (real : c < t.layout.realCount) : (t.pivot i c).ArtificialsZero := by
  intro s mem artificial
  obtain ⟨k, at_k⟩ := List.mem_iff_getElem?.mp mem
  rw [pivot_layout] at artificial
  obtain ⟨_, q, q_at, rfl⟩ := pivot_row_of_artificial at_i real at_k artificial
  rw [Row.eliminate_of_entry_eq_zero (settled k q q_at artificial c real)]
  exact artificials q (List.mem_of_getElem? q_at) artificial

theorem Detached.step (detached : t.Detached) (step : LoopStep false t u) :
    u.Detached ∧ t.Equivalent u := by
  cases step with
  | pivot entering leaving =>
    obtain ⟨real, inside, _, _⟩ := detached.vertex.entering entering
    obtain ⟨r, at_i, _, _⟩ := leavingRow_eq_some_iff.mp leaving
    obtain ⟨next, same⟩ := detached.vertex.pivot inside leaving
    exact ⟨⟨next, detached.artificials_zero.pivot_of_settled detached.settled at_i real,
      fun k => Settled.pivot at_i real fun _ => detached.settled k⟩, same⟩

theorem Detached.reach (detached : t.Detached) (reach : LoopReach false t u) :
    u.Detached ∧ t.Equivalent u := by
  refine reach.keeps (P := fun v => v.Detached ∧ t.Equivalent v) (fun step kept => ?_)
    ⟨detached, .refl t⟩
  obtain ⟨next, step_same⟩ := kept.1.step step
  exact ⟨next, kept.2.trans step_same⟩

/-! ## Artificial variables at its points -/

theorem Detached.point_artificial (detached : t.Detached) (artificial :
    t.layout.isArtificial c = true) : t.point c = 0 := by
  rcases t.basic_or_nonbasic c with ⟨r, mem, rfl⟩ | nonbasic
  · rw [detached.vertex.solved.point_basic mem]
    exact detached.artificials_zero r mem artificial
  · exact point_nonbasic nonbasic

/-- Artificial variables stay zero while a real one grows. -/
theorem Detached.along_artificial (detached : t.Detached) (real : c < t.layout.realCount)
    (nonbasic : t.Nonbasic c) {j : Nat} (artificial : t.layout.isArtificial j = true)
    (amount : Rat) : t.along c amount j = 0 := by
  rcases t.basic_or_nonbasic j with ⟨r, mem, rfl⟩ | other
  · obtain ⟨k, at_k⟩ := List.mem_iff_getElem?.mp mem
    have entry := detached.settled k r at_k artificial c real
    rw [along_basic detached.vertex.solved nonbasic mem, entry, mul_zero, sub_zero]
    exact detached.artificials_zero r mem artificial
  · refine along_nonbasic other ?_ amount
    rintro rfl
    exact Layout.not_isArtificial_of_lt real artificial

/-! ## What its points say about the problem -/

section Meaning

variable {p : Problem Rat}

theorem Equivalent.gap_eq_gainAt (same : (ofProblem p).Equivalent t) {y : Point}
    (admits : t.Admits y) : t.objective.gap y = p.gainAt y := by
  rw [same.gap_objective ((same.admits_iff y).mp admits).2]
  exact p.gap_objective_ofProblem y

variable (sized : p.WellSized) (same : (ofProblem p).Equivalent t)

include sized same

theorem Equivalent.feasible_of_admits {y : Point} (admits : t.Admits y)
    (artificial_zero : ∀ j, t.layout.isArtificial j = true → y j = 0) : p.Feasible y := by
  obtain ⟨nonneg, satisfied⟩ := (same.admits_iff y).mp admits
  refine p.feasible_of_satisfiedBy sized nonneg satisfied fun k inside => artificial_zero _ ?_
  rw [same.layout]
  exact Layout.isArtificial_artificialColumn inside

theorem Detached.feasible_point (detached : t.Detached) : p.Feasible t.point :=
  same.feasible_of_admits sized detached.vertex.admits_point fun _ => detached.point_artificial

/-- Where no real column has a negative cost, no feasible point has more gain than the basic
one. -/
theorem Detached.isOptimum_point (detached : t.Detached)
    (none_enters : t.enteringColumn false = none) : p.IsOptimum t.point := by
  refine ⟨detached.feasible_point sized same, fun x feasible better => ?_⟩
  have canonical := detached.vertex.canonical
  have costs := enteringColumn_eq_none_iff.mp none_enters
  have admits := (same.admits_iff _).mpr (admits_extend sized feasible)
  have terms : ∀ j < t.objective.cells.length, 0 ≤ t.objective.entry j * p.extend x j := by
    intro j inside
    rw [canonical.objective_width] at inside
    rcases Nat.lt_or_ge j t.layout.realCount with real | artificial
    · exact mul_nonneg (costs j real) (admits.1 j inside)
    · -- Beyond the real columns costs can have any sign, but there the point is zero.
      obtain ⟨k, _, rfl⟩ :=
        Layout.exists_artificialColumn ((Layout.isArtificial_iff _ _).mpr ⟨artificial, inside⟩)
      have zero : p.extend x (t.layout.artificialColumn k) = 0 :=
        same.layout ▸ p.extend_artificial sized x k
      rw [zero, mul_zero]
  have gain : p.gainAt x ≤ p.gainAt t.point := by
    calc p.gainAt x
        = p.gainAt (p.extend x) := (p.gainAt_extend sized x).symm
      _ = t.objective.gap (p.extend x) := (same.gap_eq_gainAt admits).symm
      _ ≤ t.objective.rhs := gap_le_rhs terms
      _ = t.objective.gap t.point := canonical.gap_objective_point.symm
      _ = p.gainAt t.point := same.gap_eq_gainAt detached.vertex.admits_point
  exact absurd ((p.better_iff_gainAt_lt _ _).mp better) (not_lt.mpr gain)

/-- Where a real column enters and no row leaves, its ray consists of feasible points and passes
every bound. -/
theorem Detached.isUnbounded (detached : t.Detached)
    (entering : t.enteringColumn false = some c) (leaving : t.leavingRow c = none) :
    p.IsUnbounded := by
  obtain ⟨real, _, _, nonbasic⟩ := detached.vertex.entering entering
  refine p.isUnbounded_of_gainAt fun bound => ?_
  obtain ⟨amount, nonneg, above⟩ := detached.vertex.exists_along entering bound
  have admits := detached.vertex.admits_along entering leaving nonneg
  refine ⟨t.along c amount, ?_, ?_⟩
  · exact same.feasible_of_admits sized admits fun j artificial =>
      detached.along_artificial real nonbasic artificial amount
  · rw [← same.gap_eq_gainAt admits]
    exact above

end Meaning

/-! ## Where it starts -/

section Starts

variable {p : Problem Rat}

/-- Without artificial columns there is nothing to be detached from. -/
theorem detached_ofProblem (sized : p.WellSized) (none : p.layout.artificials = 0) :
    (ofProblem p).Detached := by
  have real : ∀ c, (ofProblem p).layout.isArtificial c ≠ true := by
    intro c artificial
    obtain ⟨k, inside, _⟩ := Layout.exists_artificialColumn artificial
    exact Nat.not_lt_zero k (none ▸ inside)
  exact ⟨isVertex_ofProblem sized, fun r _ artificial => absurd artificial (real r.basic),
    fun _ r _ artificial => absurd artificial (real r.basic)⟩

/-- If the artificial variables sum to nothing at the basic point, each of them is zero. -/
theorem IsVertex.artificialsZero (vertex : t.IsVertex)
    (sum_le : t.layout.artificialSum t.point ≤ 0) : t.ArtificialsZero := by
  intro r mem artificial
  obtain ⟨k, inside, column⟩ := Layout.exists_artificialColumn artificial
  rw [← vertex.solved.point_basic mem, column]
  exact Layout.artificial_eq_zero (fun j _ => vertex.point_nonneg j) sum_le inside

end Starts

end Tableau

namespace Solver

open Tableau

variable {p : Problem Rat}

/-- At tolerance zero, a first phase that leaves nothing of the artificial variables hands over a
detached tableau that says the same as the starting one. -/
theorem detached_drivenOut (s : Solver Rat) (sized : p.WellSized) (zero : s.tolerance = 0)
    (within : ¬ s.tolerance * (ofProblem p).rhsScale < s.residual (ofProblem p)) :
    ((s.drivenOut (ofProblem p)).loadObjective (ofProblem p).objective.cells).Detached ∧
      (ofProblem p).Equivalent
        ((s.drivenOut (ofProblem p)).loadObjective (ofProblem p).objective.cells) := by
  obtain ⟨vertex, same⟩ := s.reach_firstPhase sized
  have artificials : (s.firstPhase (ofProblem p)).tableau.ArtificialsZero := by
    refine vertex.artificialsZero ?_
    have none_left := not_lt.mp within
    rw [zero, zero_mul, s.residual_eq sized] at none_left
    rw [same.layout]
    exact none_left
  have driven : s.drivenOut (ofProblem p) =
      ((s.firstPhase (ofProblem p)).tableau.driveOut 0 (s.firstPhase (ofProblem p)).iterations
        (List.range (s.firstPhase (ofProblem p)).tableau.constraintCount)).2 := by
    unfold drivenOut
    rw [zero]
  obtain ⟨last_vertex, driven_same, last_zero, last_settled⟩ := driveOut_zero
    (List.range (s.firstPhase (ofProblem p)).tableau.constraintCount)
    (s.firstPhase (ofProblem p)).iterations vertex artificials
  rw [← driven] at last_vertex driven_same last_zero last_settled
  have settled : ∀ k, (s.drivenOut (ofProblem p)).Settled k := by
    -- Every row has been looked at, and past the last one there is nothing to settle.
    refine fun k => last_settled k fun beyond => settled_of_le ?_
    simpa using beyond
  have layout : (s.drivenOut (ofProblem p)).layout = (ofProblem p).layout :=
    driven_same.layout.trans same.layout
  have width : (ofProblem p).objective.cells.length = (s.drivenOut (ofProblem p)).layout.width := by
    rw [layout]
    exact (canonical_ofProblem sized).objective_width
  refine ⟨⟨⟨last_vertex.solved.canonical_loadObjective width, last_vertex.feasible⟩, last_zero,
    settled⟩, layout, driven_same.rowSpace.trans same.rowSpace, ?_⟩
  have loaded := last_vertex.solved.gap_loadObjective_sub_mem width
  rw [driven_same.rowSpace.trans same.rowSpace] at loaded
  exact loaded

/-! ## How a run ends -/

/-- A tableau and a verdict with which a run ends that reached the loop of the problem's own
objective. -/
structure Concludes (p : Problem Rat) (t : Tableau Rat) (v : Verdict Rat) : Prop where
  detached : t.Detached
  equivalent : (ofProblem p).Equivalent t
  optimal : v = .optimal → t.enteringColumn false = none
  unbounded : ∀ c, v = .unbounded c → t.enteringColumn false = some c ∧ t.leavingRow c = none

/-- The loop of the problem's own objective, started detached, ends so. -/
theorem concludes_improve {t : Tableau Rat} (detached : t.Detached)
    (same : (ofProblem p).Equivalent t) {stage : Stage} (own : (stage == .first) = false)
    (budget iterations : Nat) :
    Concludes p (t.improve stage budget iterations).tableau
      (t.improve stage budget iterations).verdict := by
  have reach := reach_improve stage budget iterations t
  have ends := improve_verdict_cases stage budget iterations t
  rw [own] at reach ends
  obtain ⟨last, last_same⟩ := detached.reach reach
  refine ⟨last, same.trans last_same, fun optimal => ?_, fun c unbounded => ?_⟩
  · rcases ends with ⟨_, none_enters⟩ | ⟨d, other, _, _⟩ | other
    · exact none_enters
    · cases other.symm.trans optimal
    · cases other.symm.trans optimal
  · rcases ends with ⟨other, _⟩ | ⟨d, verdict, entering, leaving⟩ | other
    · cases other.symm.trans unbounded
    · cases verdict.symm.trans unbounded
      exact ⟨entering, leaving⟩
    · cases other.symm.trans unbounded

/-- Without artificial columns, or at tolerance zero, a run that accepts its problem ends in the
loop of the problem's own objective. -/
theorem concludes_trail (s : Solver Rat) (sized : p.WellSized)
    (allowed : p.layout.artificials = 0 ∨ s.tolerance = 0)
    (accepted : (s.trail (ofProblem p)).verdict.Accepts) :
    Concludes p (s.trail (ofProblem p)).tableau (s.trail (ofProblem p)).verdict := by
  by_cases none : p.layout.artificials = 0
  · obtain ⟨tableau, verdict⟩ := s.trail_of_no_artificials (t := ofProblem p) none
    rw [tableau, verdict]
    exact concludes_improve (detached_ofProblem sized none) (.refl _) rfl _ _
  · have zero := allowed.resolve_left none
    rcases s.trail_cases (t := ofProblem p) none with
      ⟨_, limit⟩ | ⟨_, _, infeasible⟩ | ⟨_, within, tableau, verdict⟩
    · exact absurd (limit ▸ accepted) Verdict.not_accepts_limitReached
    · exact absurd (infeasible ▸ accepted) (Verdict.not_accepts_infeasible _)
    · obtain ⟨detached, same⟩ := s.detached_drivenOut sized zero within
      rw [tableau, verdict]
      exact concludes_improve detached same rfl _ _

end Solver

end LinearProgram

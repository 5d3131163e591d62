import LinearProgram.Proofs.Course
import LinearProgram.Proofs.DriveOut
import LinearProgram.Proofs.Infeasibility

/-!
# Artificial variables that stay basic

Between the phases, an artificial variable stays basic where its row has no real
entry above the tolerance.  At that moment it is within the threshold of the
first phase.  From then on only real columns enter, so a row either keeps its
artificial variable or loses it for good, and the variable differs from what it
was by the real part of its row at the current point.

At tolerance zero the real part is empty and the variable stays at zero.  At a
positive tolerance it is not: entries within the tolerance are no reason to call
a row redundant, since the variables they belong to can be large.

* `HandedOver`: what holds between the phases, one lemma for each thing that can happen there.
* `HandedOver.kept`: how far a kept variable can have come from zero.
-/

namespace LinearProgram

theorem Row.dot_take_nonneg {r : Row Rat} {count : Nat} {x : Point}
    (entries : ∀ j < count, 0 ≤ r.entry j) (nonneg : ∀ j, 0 ≤ x j) :
    0 ≤ dot (r.cells.take count) x := by
  apply dot_nonneg
  intro j j_lt
  rw [List.length_take, lt_min_iff] at j_lt
  have entry : (r.cells.take count).getD j 0 = r.entry j := by
    simp [Row.entry, j_lt.1]
  rw [entry]
  exact mul_nonneg (entries j j_lt.1) (nonneg j)

namespace Tableau

/-- No artificial variable that is basic exceeds a bound. -/
def ArtificialsWithin (t : Tableau Rat) (bound : Rat) : Prop :=
  ∀ r ∈ t.rows, t.layout.isArtificial r.basic = true → r.row.rhs ≤ bound

/-- An artificial variable that is basic in the second tableau is basic in the first one, and in the
same row. -/
def Inherits (t u : Tableau Rat) : Prop :=
  ∀ (k : Nat) (r : BasicRow Rat), u.rows[k]? = some r → u.layout.isArtificial r.basic = true →
    ∃ kept : BasicRow Rat, t.rows[k]? = some kept ∧ kept.basic = r.basic

variable {t u : Tableau Rat} {i c k : Nat} {r kept : BasicRow Rat}

/-! ## The loop of the second phase -/

theorem Inherits.refl (t : Tableau Rat) : t.Inherits t := fun _ r at_k _ => ⟨r, at_k, rfl⟩

theorem Inherits.pivot (inherits : t.Inherits u) (at_i : u.rows[i]? = some r)
    (real : c < u.layout.realCount) : t.Inherits (u.pivot i c) := by
  intro k s at_k artificial
  rw [pivot_layout] at artificial
  obtain ⟨_, q, q_at, rfl⟩ := pivot_row_of_artificial at_i real at_k artificial
  exact inherits k q q_at artificial

/-- Only real columns enter, so no artificial variable becomes basic. -/
theorem IsVertex.inherits (vertex : t.IsVertex) (reach : LoopReach false t u) : t.Inherits u := by
  refine (reach.keeps (P := fun v => v.IsVertex ∧ t.Inherits v) (fun step kept => ?_)
    ⟨vertex, .refl t⟩).2
  obtain ⟨v_vertex, inherits⟩ := kept
  cases step with
  | pivot entering leaving =>
    obtain ⟨real, inside, _⟩ := v_vertex.entering entering
    obtain ⟨r, at_i, _⟩ := leavingRow_eq_some_iff.mp leaving
    exact ⟨(v_vertex.pivot inside leaving).1, inherits.pivot at_i real⟩

/-- Of the artificial variables that a row mentions, all but its own are zero at every later basic
point. -/
theorem Inherits.entry_mul_point (inherits : t.Inherits u) (solved : t.Solved)
    (layout : u.layout = t.layout) (kept_mem : kept ∈ t.rows)
    (artificial : t.layout.isArtificial c = true) (ne : c ≠ kept.basic) :
    kept.row.entry c * u.point c = 0 := by
  rcases u.basic_or_nonbasic c with ⟨q, q_mem, rfl⟩ | nonbasic
  · obtain ⟨k, at_k⟩ := List.mem_iff_getElem?.mp q_mem
    obtain ⟨first, first_at, basic⟩ := inherits k q at_k (layout ▸ artificial)
    have differ : kept ≠ first := by
      rintro rfl
      exact ne basic.symm
    rw [← basic, solved.entry_of_ne kept_mem (List.mem_of_getElem? first_at) differ, zero_mul]
  · rw [point_nonbasic nonbasic, mul_zero]

/-- The row that an artificial variable was basic in still holds at every later basic point, and
there only the real part of the row and the variable itself are left. -/
theorem Inherits.rhs_eq (inherits : t.Inherits u) (solved : t.Solved) (vertex : u.IsVertex)
    (same : t.Equivalent u) (mem : r ∈ u.rows) (artificial : t.layout.isArtificial r.basic = true)
    (kept_mem : kept ∈ t.rows) (basic : kept.basic = r.basic) :
    r.row.rhs = kept.row.rhs - dot (kept.row.cells.take t.layout.realCount) u.point := by
  have width := solved.width kept kept_mem
  obtain ⟨above, below⟩ := (Layout.isArtificial_iff _ _).mp artificial
  have real_length : (kept.row.cells.take t.layout.realCount).length = t.layout.realCount := by
    rw [List.length_take, width]
    omega
  have holds : dot kept.row.cells u.point = kept.row.rhs :=
    (same.satisfiedBy_iff _).mp vertex.solved.satisfiedBy_point kept kept_mem
  have entry : ∀ j, (kept.row.cells.drop t.layout.realCount).getD j 0 =
      kept.row.entry (t.layout.realCount + j) := fun j => by simp [Row.entry]
  have column : t.layout.realCount + (r.basic - t.layout.realCount) = kept.basic := by omega
  have rest : dot (kept.row.cells.drop t.layout.realCount)
      (fun j => u.point (t.layout.realCount + j)) = r.row.rhs := by
    rw [dot_eq_single (c := r.basic - t.layout.realCount) ?inside ?others, entry, column,
      solved.unit kept kept_mem, one_mul, basic, vertex.solved.point_basic mem]
    case inside =>
      rw [List.length_drop, width]
      omega
    case others =>
      intro j j_lt ne
      rw [List.length_drop, width] at j_lt
      rw [entry]
      refine inherits.entry_mul_point solved same.layout kept_mem ?_ (by omega)
      rw [Layout.isArtificial_iff]
      omega
  have split := dot_append (kept.row.cells.take t.layout.realCount)
    (kept.row.cells.drop t.layout.realCount) u.point
  rw [List.take_append_drop, holds, real_length, rest] at split
  linarith

end Tableau

/-! ## Where it starts -/

/-- What is known of a tableau between the phases, when these rows still have to be looked at. -/
structure HandedOver (s : Solver Rat) (start t : Tableau Rat) (rows : List Nat) : Prop where
  vertex : t.IsVertex
  layout : t.layout = start.layout
  within : t.ArtificialsWithin (s.tolerance * start.rhsScale)
  /-- At tolerance zero, the rows that have been looked at are settled. -/
  settled : s.tolerance = 0 → ∀ k, k ∉ rows → t.Settled k

/-- What is known of a run at each point before the second phase. -/
def Tracked (s : Solver Rat) (p : Problem Rat) (a : Configuration Rat) : Prop :=
  match a.control with
  | .opening | .pricing => a.tableau = Tableau.ofProblem p
  | .improving .first =>
    a.tableau.IsVertex ∧ (Tableau.ofProblem p).priceArtificials.Equivalent a.tableau
  | .exchanging rows => HandedOver s (Tableau.ofProblem p) a.tableau rows
  | .improving .only | .improving .second | .finished => True

variable {s : Solver Rat} {p : Problem Rat} {a b : Configuration Rat} {m : Moment Rat}

/-- The first phase hands over a tableau in which no artificial variable exceeds the threshold,
because their sum does not. -/
theorem HandedOver.of_priced (sized : p.WellSized) {t : Tableau Rat} (vertex : t.IsVertex)
    (same : (Tableau.ofProblem p).priceArtificials.Equivalent t)
    (within : ¬ s.tolerance * (Tableau.ofProblem p).rhsScale < -t.objective.rhs) :
    HandedOver s (Tableau.ofProblem p) t (List.range t.constraintCount) := by
  have layout : t.layout = p.layout := same.layout
  refine ⟨vertex, layout, fun r mem artificial => ?_, fun _ k beyond => ?_⟩
  · rw [layout] at artificial
    obtain ⟨j, inside, column⟩ := Layout.exists_artificialColumn artificial
    have nonneg : ∀ c < p.layout.width, 0 ≤ t.point c := fun c _ => vertex.point_nonneg c
    calc r.row.rhs
        = t.point (p.layout.artificialColumn j) := by rw [← column, vertex.solved.point_basic mem]
      _ ≤ p.layout.artificialSum t.point := Layout.le_artificialSum nonneg inside
      _ = -t.objective.rhs := Solver.artificialSum_point sized vertex same
      _ ≤ s.tolerance * (Tableau.ofProblem p).rhsScale := not_lt.mp within
  · exact Tableau.settled_of_le (by simpa using beyond)

namespace HandedOver

variable {start t : Tableau Rat} {i c : Nat} {rows : List Nat}

theorem skip (handed : HandedOver s start t (i :: rows))
    (none_found : t.driveOutColumn s.tolerance i = none) : HandedOver s start t rows := by
  refine ⟨handed.vertex, handed.layout, handed.within, fun zero k looked => ?_⟩
  by_cases here : k = i
  · subst here
    rw [zero] at none_found
    exact Tableau.settled_of_driveOutColumn none_found
  · exact handed.settled zero k (List.not_mem_cons_of_ne_of_not_mem here looked)

theorem driveOut (nonneg : 0 ≤ s.tolerance) (handed : HandedOver s start t (i :: rows))
    (found : t.driveOutColumn s.tolerance i = some c) :
    HandedOver s start ((t.clearRhs i).pivot i c) rows := by
  obtain ⟨vertex, layout, within, settled⟩ := handed
  have same : ((t.clearRhs i).pivot i c).layout = t.layout := by simp
  refine ⟨vertex.driveOut nonneg found, same.trans layout, fun q mem artificial => ?_,
    fun zero k looked q at_k artificial => ?_⟩
  · obtain ⟨k, at_k⟩ := List.mem_iff_getElem?.mp mem
    rw [same] at artificial
    obtain ⟨_, r, r_at, basic, rhs, _⟩ :=
      Tableau.driveOut_row_of_artificial vertex.solved found at_k artificial
    rw [rhs]
    exact within r (List.mem_of_getElem? r_at) (basic ▸ artificial)
  · rw [same] at artificial ⊢
    obtain ⟨_, _, _, real, _⟩ := Tableau.driveOutColumn_eq_some found
    obtain ⟨ne, r, r_at, basic, _, entry⟩ :=
      Tableau.driveOut_row_of_artificial vertex.solved found at_k artificial
    have zeros := settled zero k (List.not_mem_cons_of_ne_of_not_mem ne looked) r r_at
      (basic ▸ artificial)
    rw [entry (zeros c real)]
    exact zeros

theorem loadObjective (handed : HandedOver s start t [])
    (width : start.objective.cells.length = start.layout.width) :
    HandedOver s start (t.loadObjective start.objective.cells) [] :=
  ⟨handed.vertex.loadObjective (width.trans (congrArg Layout.width handed.layout.symm)),
    handed.layout, handed.within, handed.settled⟩

/-- Where an artificial variable is still basic, it was handed over in the same row, and the real
part of that row says how far it has come since. -/
theorem kept (handed : HandedOver s start t []) {u : Tableau Rat} {r : BasicRow Rat}
    (reach : Tableau.LoopReach false t u) (at_i : u.rows[i]? = some r)
    (artificial : u.layout.isArtificial r.basic = true) :
    ∃ kept, t.rows[i]? = some kept ∧ kept.basic = r.basic ∧
      r.row.rhs = kept.row.rhs - dot (kept.row.cells.take start.layout.realCount) u.point ∧
      ((∀ j < start.layout.realCount, 0 ≤ kept.row.entry j) →
        r.row.rhs ≤ s.tolerance * start.rhsScale) ∧
      (s.tolerance = 0 → r.row.rhs = 0) := by
  obtain ⟨vertex, layout, within, settled⟩ := handed
  obtain ⟨u_vertex, same⟩ := vertex.reach reach
  have inherits := vertex.inherits reach
  obtain ⟨kept, kept_at, basic⟩ := inherits i r at_i artificial
  rw [same.layout] at artificial
  have kept_mem := List.mem_of_getElem? kept_at
  have mem := List.mem_of_getElem? at_i
  have kept_within := within kept kept_mem (basic ▸ artificial)
  have drift := inherits.rhs_eq vertex.solved u_vertex same mem artificial kept_mem basic
  have bounded : (∀ j < start.layout.realCount, 0 ≤ kept.row.entry j) →
      r.row.rhs ≤ s.tolerance * start.rhsScale := by
    intro entries
    have part := Row.dot_take_nonneg entries u_vertex.point_nonneg
    rw [← layout] at part
    linarith
  refine ⟨kept, kept_at, basic, layout ▸ drift, bounded, fun zero => ?_⟩
  have zeros := settled zero i List.not_mem_nil kept kept_at (basic ▸ artificial)
  have above := bounded fun j real => (zeros j (layout ▸ real)).ge
  rw [zero, zero_mul] at above
  exact le_antisymm above (u_vertex.feasible r mem)

end HandedOver

theorem Pending.handedOver (sized : p.WellSized) {control : Control} {t : Tableau Rat}
    {rows : List Nat} {n : Nat} (pending : Pending s (Tableau.ofProblem p) control t rows)
    (tracked : Tracked s p ⟨control, t, n⟩) : HandedOver s (Tableau.ofProblem p) t rows := by
  induction pending with
  | handOver _ within => exact .of_priced sized tracked.1 tracked.2 within
  | rest => exact tracked
  | skip _ none_found ih => exact (ih tracked).skip none_found

/-- Every transition keeps track, and restoring the objective happens in a tableau that was handed
over. -/
theorem Transition.tracked (sized : p.WellSized) (nonneg : 0 ≤ s.tolerance)
    (step : Transition s (Tableau.ofProblem p) a m b) (tracked : Tracked s p a) :
    Tracked s p b ∧
      (m.event = .restoreObjective → HandedOver s (Tableau.ofProblem p) m.tableau []) := by
  cases step with
  | start =>
    refine ⟨?_, nofun⟩
    unfold Tableau.opened
    split
    · trivial
    · exact tracked
  | priceArtificials =>
    refine ⟨?_, nofun⟩
    cases tracked
    exact ⟨Solver.isVertex_priceArtificials sized, .refl _⟩
  | @pivot stage t n c i _ entering leaving =>
    refine ⟨?_, nofun⟩
    cases stage with
    | only | second => trivial
    | first =>
      obtain ⟨vertex, same⟩ := tracked
      obtain ⟨next, step_same⟩ := vertex.pivot (vertex.entering entering).2.1 leaving
      exact ⟨next, same.trans step_same⟩
  | driveOut pending found =>
    exact ⟨(pending.handedOver sized tracked).driveOut nonneg found, nofun⟩
  | restoreObjective pending =>
    exact ⟨trivial, fun _ => (pending.handedOver sized tracked).loadObjective
      (Tableau.canonical_ofProblem sized).objective_width⟩
  | finish => exact ⟨trivial, nofun⟩

namespace Solver

/-- When the second phase begins, no basic artificial variable exceeds the threshold.  Later on, one
that is still basic has changed by the real part of the row that it was in, so it stays within the
threshold if this row has no negative real entry, and at zero if the tolerance is zero. -/
theorem solve_keptArtificials (s : Solver Rat) (valid : p.validate s.twoPhase = .ok ())
    (nonneg : 0 ≤ s.tolerance) :
    ∃ r, s.solve p = .ok r ∧ ∀ (k : Nat) (restored : Step Rat), r.steps[k]? = some restored →
      restored.event = .restoreObjective →
      restored.tableau.ArtificialsWithin (s.tolerance * (Tableau.ofProblem p).rhsScale) ∧
      ∀ (j : Nat) (x : Step Rat), k ≤ j → r.steps[j]? = some x →
        ∀ (i : Nat) (row : BasicRow Rat), x.tableau.rows[i]? = some row →
        x.tableau.layout.isArtificial row.basic = true →
        ∃ kept : BasicRow Rat, restored.tableau.rows[i]? = some kept ∧ kept.basic = row.basic ∧
          row.row.rhs =
            kept.row.rhs - dot (kept.row.cells.take p.layout.realCount) x.tableau.point ∧
          ((∀ c < p.layout.realCount, 0 ≤ kept.row.entry c) →
            row.row.rhs ≤ s.tolerance * (Tableau.ofProblem p).rhsScale) ∧
          (s.tolerance = 0 → row.row.rhs = 0) := by
  have sized := p.wellSized_of_validate valid
  have course := s.course_moments p (Tableau.ofProblem p)
  refine ⟨_, s.solve_of_validate valid, fun k restored at_k event => ?_⟩
  rw [report_steps, Step.getElem?_ofMoments] at at_k
  obtain ⟨m, m_at, rfl⟩ := Option.map_eq_some_iff.mp at_k
  obtain ⟨b, c, before, step, after⟩ := course.at_moment m_at
  have tracked : Tracked s p b :=
    before.keeps (fun step tracked => (step.tracked sized nonneg tracked).1) rfl
  have handed := (step.tracked sized nonneg tracked).2 event
  refine ⟨handed.within, fun j x le at_j i row at_i artificial => ?_⟩
  rw [report_steps, Step.getElem?_ofMoments] at at_j
  obtain ⟨n, n_at, rfl⟩ := Option.map_eq_some_iff.mp at_j
  rw [step.restored event] at after
  have reach : Tableau.LoopReach false m.tableau n.tableau := by
    rcases Nat.eq_or_lt_of_le le with rfl | later
    · cases Option.some.inj (m_at.symm.trans n_at)
      exact .refl
    · refine after.loopReach n (List.mem_of_getElem? (i := j - (k + 1)) ?_)
      rw [List.getElem?_drop, Nat.add_sub_cancel' later]
      exact n_at
  exact handed.kept reach at_i artificial

/-- An equation with an entry within the default tolerance, whose variable can be large. -/
def thinRow : Problem Rat :=
  { names := ["x1"]
    objective := ⟨[1], .maximize⟩
    constraints := [⟨"thin", [-1e-10], .eq, 0⟩, ⟨"cap", [1e-10], .le, 1⟩] }

/-- The variable comes to be large, and its part of the row is what the artificial variable has
grown by. -/
theorem solve_keptArtificials_thinRow :
    ∃ r restored last row kept, { Solver.default with twoPhase := true }.solve thinRow = .ok r ∧
      r.steps[2]? = some restored ∧ r.steps[4]? = some last ∧
      last.tableau.rows[0]? = some row ∧ restored.tableau.rows[0]? = some kept ∧
      row.row.rhs = kept.row.rhs - dot (kept.row.cells.take 2) last.tableau.point := by
  obtain ⟨r, solved, spec⟩ :=
    solve_keptArtificials { Solver.default with twoPhase := true } (p := thinRow) rfl
      (by decide +kernel)
  have event := eq_of_solve (x := some .restoreObjective) (·.steps[2]?.map Step.event) solved
    (by decide +kernel)
  have artificial := eq_of_solve (x := some true) (·.steps[4]?.bind fun x =>
    x.tableau.rows[0]?.map fun q => x.tableau.layout.isArtificial q.basic) solved
    (by decide +kernel)
  obtain ⟨restored, restored_at, restores⟩ := Option.map_eq_some_iff.mp event
  obtain ⟨last, last_at, basics⟩ := Option.bind_eq_some_iff.mp artificial
  obtain ⟨row, row_at, basic⟩ := Option.map_eq_some_iff.mp basics
  obtain ⟨kept, kept_at, _, drift, _⟩ :=
    (spec 2 restored restored_at restores).2 4 last (by decide) last_at 0 row row_at basic
  exact ⟨r, restored, last, row, kept, solved, restored_at, last_at, row_at, kept_at, drift⟩

/-- At the default tolerance a run can end optimal with a basic artificial variable above the
threshold. -/
theorem solve_thinRow_above_threshold :
    thinRow.validate true = .ok () ∧
    ∃ r restored last row, { Solver.default with twoPhase := true }.solve thinRow = .ok r ∧
      r.solution.status = .optimal ∧
      r.steps[2]? = some restored ∧ restored.event = .restoreObjective ∧
      r.steps[4]? = some last ∧ last.tableau.rows[0]? = some row ∧
      last.tableau.layout.isArtificial row.basic = true ∧
      Solver.default.tolerance * (Tableau.ofProblem thinRow).rhsScale < row.row.rhs := by
  have solved := solve_of_validate { Solver.default with twoPhase := true } (p := thinRow) rfl
  have event := eq_of_solve (x := some .restoreObjective) (·.steps[2]?.map Step.event) solved
    (by decide +kernel)
  have levels := eq_of_solve (x := some (true, 1)) (·.steps[4]?.bind fun x =>
    x.tableau.rows[0]?.map fun q => (x.tableau.layout.isArtificial q.basic, q.row.rhs)) solved
    (by decide +kernel)
  obtain ⟨restored, restored_at, restores⟩ := Option.map_eq_some_iff.mp event
  obtain ⟨last, last_at, rows⟩ := Option.bind_eq_some_iff.mp levels
  obtain ⟨row, row_at, level⟩ := Option.map_eq_some_iff.mp rows
  obtain ⟨artificial, rhs⟩ := Prod.mk.inj level
  refine ⟨rfl, _, restored, last, row, solved, status_of_solve solved (by decide +kernel),
    restored_at, restores, last_at, row_at, artificial, ?_⟩
  rw [rhs]
  decide +kernel

end Solver

end LinearProgram

import LinearProgram.Proofs.Course

/-!
# A report can be replayed

The steps of a report are numbered without gaps, start with the starting tableau
and end with the only solution.  Each pivot is described as the tableau has it,
and every tableau is the one before it with the recorded event carried out.  All
of this holds whatever the arithmetic does, because it is about what is recorded
and not about what the numbers mean.

`Report.Replays` puts these laws together; every sound problem gets such a report.
-/

namespace LinearProgram

variable {α : Type} [Scalar α]

/-! ## What a report has to say -/

/-- A pivot takes place in a constraint row, and its element and names are those of the tableau. -/
structure Pivot.Describes (p : Pivot α) (t : Tableau α) : Prop where
  row : p.row < t.constraintCount
  element : t.cell? p.row p.column = some p.element
  entering : t.layout.labels[p.column]? = some p.entering
  leaving : t.basisNames[p.row]? = some p.leaving

/-- The second step's tableau is the first one's with its event carried out, but for an objective
row that is replaced on purpose. -/
structure Step.LeadsTo (costs : List α) (x y : Step α) : Prop where
  layout : y.tableau.layout = x.tableau.layout
  rows : y.tableau.rows = (x.event.outcome x.tableau).rows
  objective : x.pivot? ≠ none → y.event ≠ .restoreObjective →
    y.tableau.objective = (x.event.outcome x.tableau).objective
  restored : y.event = .restoreObjective →
    y.tableau.objective = ((x.event.outcome x.tableau).loadObjective costs).objective

/-- The laws of a report that begins with a starting tableau. -/
structure Report.Replays (r : Report α) (start : Tableau α) : Prop where
  numbered : ∀ k x, r.steps[k]? = some x → x.number = k + 1
  opens : ∃ x, r.steps.head? = some x ∧ x.tableau = start ∧ x.pivot? = none
  closes : ∃ x, r.steps.getLast? = some x ∧ x.solution? = some r.solution ∧ x.pivot? = none
  unsolved : ∀ x ∈ r.steps.dropLast, x.solution? = none
  described : ∀ x ∈ r.steps, ∀ p, x.pivot? = some p → p.Describes x.tableau
  linked : ∀ k x y, r.steps[k]? = some x → r.steps[k + 1]? = some y →
    x.LeadsTo start.objective.cells y
  /-- A pivot carries the number of pivots that the two rules have chosen so far. -/
  counted : ∀ k x p, r.steps[k]? = some x → x.pivot? = some p →
    p.iteration = (r.steps.take (k + 1)).countP fun y => y.event.isChosen
  total : r.solution.iterations = r.steps.countP fun y => y.event.isChosen

/-! ## Descriptions of pivots -/

namespace Tableau

variable {t : Tableau α} {i c : Nat}

theorem describes_pivotAt (shaped : t.Shaped) (n : Nat) (row : i < t.constraintCount)
    (column : c < t.layout.width) : (t.pivotAt n i c).Describes t := by
  obtain ⟨r, at_i⟩ : ∃ r, t.rows[i]? = some r := ⟨_, List.getElem?_eq_getElem row⟩
  refine ⟨row, ?_, Layout.getElem?_labels column, ?_⟩
  · have element := entry_of_getElem? at_i c
    exact (shaped.cell?_row at_i column).trans (congrArg some element.symm)
  · have leaving : ((t.basicColumn i).map t.layout.label).getD "" = t.layout.label r.basic := by
      simp [basicColumn, at_i]
    exact (getElem?_basisNames at_i).trans (congrArg some leaving.symm)

end Tableau

variable {s : Solver α} {start : Tableau α} {a b c : Configuration α} {m n : Moment α}

namespace Transition

/-- Every transition keeps the shape of its tableau, and a pivot is described as the tableau has
it. -/
theorem shaped (start_shaped : start.Shaped) (step : Transition s start a m b)
    (kept : a.tableau.Shaped ∧ a.tableau.layout = start.layout) :
    (b.tableau.Shaped ∧ b.tableau.layout = start.layout) ∧
      ∀ p, m.event.pivot? = some p → p.Describes m.tableau := by
  obtain ⟨here, layout⟩ := kept
  cases step with
  | start => exact ⟨⟨here, layout⟩, nofun⟩
  | finish => exact ⟨⟨here, layout⟩, nofun⟩
  | priceArtificials =>
    exact ⟨⟨here.loadObjective (Tableau.length_artificialCosts _), layout⟩, nofun⟩
  | restoreObjective =>
    refine ⟨⟨here.loadObjective ?_, layout⟩, nofun⟩
    rw [start_shaped.objective_width, ← layout]
  | pivot _ entering leaving =>
    refine ⟨⟨here.pivot _ _, by simpa using layout⟩, ?_⟩
    rintro p ⟨⟩
    exact Tableau.describes_pivotAt here _ (Tableau.leavingRow_lt leaving)
      (Tableau.enteringColumn_lt here entering)
  | driveOut _ found =>
    refine ⟨⟨(here.clearRhs _).pivot _ _, by simpa using layout⟩, ?_⟩
    rintro p ⟨⟩
    obtain ⟨r, at_i, _, real⟩ := Tableau.driveOutColumn_bounds found
    exact Tableau.describes_pivotAt here _ (List.getElem?_eq_some_iff.mp at_i).1
      (real.trans_le (Nat.le_add_right _ _))

/-- Two transitions in a row hand the tableau over. -/
theorem leadsTo (step : Transition s start a m b) (next : Transition s start b n c) (k : Nat) :
    Step.LeadsTo start.objective.cells ⟨k, m.event, m.tableau⟩ ⟨k + 1, n.event, n.tableau⟩ := by
  have handed := next.tableau_eq
  rw [step.outcome_eq] at handed
  constructor
  · simp [handed]
  · simp [handed]
  · intro pivot other
    obtain ⟨p, is_pivot⟩ := Option.ne_none_iff_exists'.mp pivot
    have not_pricing := step.not_pricing is_pivot
    show n.tableau.objective = _
    rw [handed]
    cases event : n.event with
    | priceArtificials => exact absurd (next.pricing event) not_pricing
    | restoreObjective => exact absurd event other
    | start => rfl
    | pivot => rfl
    | driveOut => rfl
    | finish => rfl
  · intro restored
    have event : n.event = .restoreObjective := restored
    show n.tableau.objective = _
    rw [handed, event]
    rfl

end Transition

/-! ## Reports -/

namespace Solver

variable {p : Problem α}

omit [Scalar α] in
theorem countP_isChosen (ms : List (Moment α)) (k : Nat) :
    ((Step.ofMoments ms).take k).countP (fun y => y.event.isChosen) =
      (ms.take k).countP fun m => m.event.isChosen := by
  have events : ((Step.ofMoments ms).take k).map Step.event = (ms.take k).map Moment.event := by
    rw [List.map_take, Step.map_event_ofMoments, List.map_take]
  have counts := congrArg (List.countP Event.isChosen) events
  rwa [List.countP_map, List.countP_map] at counts

theorem replays_report (s : Solver α) (sized : p.WellSized) :
    (s.report p (s.trail (Tableau.ofProblem p))).Replays (Tableau.ofProblem p) := by
  have shaped := Tableau.shaped_ofProblem sized
  have course := s.course_moments p (Tableau.ofProblem p)
  have steps := s.report_steps p (Tableau.ofProblem p)
  constructor
  case numbered =>
    intro k x at_k
    rw [steps, Step.getElem?_ofMoments] at at_k
    obtain ⟨m, _, rfl⟩ := Option.map_eq_some_iff.mp at_k
    rfl
  case opens =>
    exact ⟨⟨1, .start, Tableau.ofProblem p⟩, s.head_steps_report p _, rfl, rfl⟩
  case closes =>
    rw [steps, moments, Step.ofMoments_concat, List.getLast?_concat]
    exact ⟨_, rfl, rfl, rfl⟩
  case unsolved =>
    intro x mem
    rw [steps, moments, Step.ofMoments_concat, List.dropLast_concat] at mem
    obtain ⟨k, m, at_k, rfl⟩ := Step.mem_ofMoments _ mem
    exact s.solution_trail _ m (List.mem_of_getElem? at_k)
  case described =>
    intro x mem
    obtain ⟨k, m, at_k, rfl⟩ := Step.mem_ofMoments _ mem
    exact (course.forall_mem (fun step => step.shaped shaped) ⟨shaped, rfl⟩).2 m
      (List.mem_of_getElem? at_k)
  case linked =>
    intro k x y at_k at_next
    rw [steps, Step.getElem?_ofMoments] at at_k at_next
    obtain ⟨m, m_at, rfl⟩ := Option.map_eq_some_iff.mp at_k
    obtain ⟨n, n_at, rfl⟩ := Option.map_eq_some_iff.mp at_next
    obtain ⟨b, c, e, step, next⟩ := course.successive m_at n_at
    exact step.leadsTo next _
  case counted =>
    intro k x pivot at_k is_pivot
    rw [steps, Step.getElem?_ofMoments] at at_k
    obtain ⟨m, m_at, rfl⟩ := Option.map_eq_some_iff.mp at_k
    obtain ⟨b, c, before, step, _⟩ := course.at_moment m_at
    have upTo := (before.concat step).iterations_eq
    rw [steps, countP_isChosen, step.pivot_iteration is_pivot, upTo, Nat.zero_add,
      List.take_add_one, m_at]
    rfl
  case total =>
    have all := countP_isChosen (s.moments p (Tableau.ofProblem p))
      (s.moments p (Tableau.ofProblem p)).length
    rw [List.take_length, List.take_of_length_le (Step.length_ofMoments _).le] at all
    rw [steps, all]
    exact course.iterations_eq.trans (Nat.zero_add _)

/-- Every sound problem gets a report that can be replayed from its starting tableau, within the
budget. -/
theorem solve_replays (s : Solver α) (valid : p.validate s.twoPhase = .ok ()) :
    ∃ r t, s.solve p = .ok r ∧ p.tableau s.twoPhase = .ok t ∧ r.Replays t ∧
      r.solution.iterations ≤ s.maxIterations := by
  have start : p.tableau s.twoPhase = .ok (Tableau.ofProblem p) := by
    unfold Problem.tableau
    rw [valid]
    rfl
  exact ⟨_, _, s.solve_of_validate valid, start, s.replays_report (p.wellSized_of_validate valid),
    (s.course_trail _).iterations_le (Nat.zero_le _)⟩

/-- The artificial variable of the first row is zero from the start, and has to be driven out on a
negative entry between the phases. -/
def deadTie : Problem Rat :=
  { names := ["x1", "x2", "x3"]
    objective := ⟨[0, 0, 1], .maximize⟩
    constraints := [⟨"tie", [-1, -1, 0], .eq, 0⟩, ⟨"floor", [0, 0, 1], .ge, 1⟩,
      ⟨"cap", [0, 0, 1], .le, 4⟩] }

theorem solve_replays_deadTie :
    ∃ r t, (Solver.mk 10 0 true).solve deadTie = .ok r ∧ deadTie.tableau true = .ok t ∧
      r.Replays t ∧ r.solution.iterations ≤ 10 ∧ r.solution.status = .optimal ∧
      r.pivots.map (fun p => (p.iteration, p.leaving, p.entering)) =
        [(1, "a2", "x3"), (1, "a1", "x1"), (2, "s2", "s1")] := by
  obtain ⟨r, t, solved, start, replays, within⟩ :=
    solve_replays (Solver.mk 10 0 true) (p := deadTie) rfl
  exact ⟨r, t, solved, start, replays, within, status_of_solve solved (by decide +kernel),
    eq_of_solve (·.pivots.map fun p => (p.iteration, p.leaving, p.entering)) solved
      (by decide +kernel)⟩

end Solver

end LinearProgram

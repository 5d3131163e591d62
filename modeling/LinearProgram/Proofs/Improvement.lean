import LinearProgram.Proofs.Progress

/-!
# A loop does not lose ground

A pivot of a loop adds to the right-hand side of the objective row the cost of
its column times the ratio of its row.  The one is above zero because the column
could enter, the other is not below zero because the tableau is a vertex, so
nothing is lost, and something is gained unless the ratio is zero.  An exchange
of an artificial variable adds nothing, since its ratio has been set to zero.

So the right-hand side of the objective row never falls as long as the row is not
replaced.  It is replaced twice, before either phase, and inside of a loop it is
not.

* `Transition.rhs_le` and `Course.rhs_le`: one step of a run, and any number.
* `Course.not_reloads`: a part of a run within one loop does not replace the row.
-/

namespace LinearProgram

variable {α : Type}

/-- Whether an event replaces the objective row. -/
def Event.reloads : Event α → Bool
  | priceArtificials | restoreObjective => true
  | _ => false

/-- From one position on, up to another one, no step replaces the objective row. -/
def Report.SameObjective (r : Report α) (j k : Nat) : Prop :=
  ∀ x ∈ (r.steps.take (k + 1)).drop (j + 1), x.event.reloads = false

/-! ## Where the objective row is replaced -/

section Reloads

variable [Scalar α] {s : Solver α} {p : Problem α} {start : Tableau α} {a b : Configuration α}
  {m : Moment α} {ms : List (Moment α)} {stage : Stage}

theorem Event.setup_of_not_reloads {e : Event α} (kept : e.reloads = false) (costs : List α)
    (t : Tableau α) : e.setup costs t = t := by
  cases e with
  | start | pivot | driveOut | finish => rfl
  | priceArtificials | restoreObjective => cases kept

/-- Replacing the objective row leads to a later part of the run. -/
theorem Transition.rank_lt_of_reloads (step : Transition s start a m b)
    (reloads : m.event.reloads = true) : a.control.rank < b.control.rank := by
  cases step with
  | start | pivot | driveOut | finish => cases reloads
  | priceArtificials => simp [Control.rank]
  | restoreObjective pending =>
    rcases pending.control_eq with rfl | ⟨_, rfl⟩ <;> simp [Control.rank]

theorem Course.not_reloads (course : Course s start a ms b)
    (together : b.control.rank ≤ a.control.rank) : ∀ m ∈ ms, m.event.reloads = false := by
  induction course with
  | nil => exact fun m mem => absurd mem List.not_mem_nil
  | cons step rest ih =>
    have before := step.rank_le
    have after := rest.rank_le
    refine List.forall_mem_cons.mpr ⟨eq_false_of_ne_true fun reloads => ?_, ih (by omega)⟩
    have later := step.rank_lt_of_reloads reloads
    omega

/-- What is recorded inside of a loop replaces the objective row only if it restores it after the
first phase. -/
theorem Transition.not_reloads (step : Transition s start a m b)
    (inside : a.control = .improving stage) (kept : m.event ≠ .restoreObjective) :
    m.event.reloads = false := by
  cases event : m.event with
  | priceArtificials => cases inside.symm.trans (step.pricing event)
  | restoreObjective => exact absurd event kept
  | start | pivot | driveOut | finish => rfl

/-- Two steps have one objective if the later one does not replace the objective row, and nothing
recorded between them does. -/
theorem Solver.sameObjective_iff {j k : Nat} {y : Step α} (before : j < k)
    (at_k : (s.report p (s.trail start)).steps[k]? = some y) :
    (s.report p (s.trail start)).SameObjective j k ↔
      (∀ m ∈ ((s.moments p start).take k).drop (j + 1), m.event.reloads = false) ∧
        y.event.reloads = false := by
  have y_at := s.getElem?_moments_of_step at_k
  have events : (((s.report p (s.trail start)).steps.take (k + 1)).drop (j + 1)).map Step.event =
      (((s.moments p start).take (k + 1)).drop (j + 1)).map Moment.event := by
    rw [report_steps, List.map_drop, List.map_take, Step.map_event_ofMoments, List.map_drop,
      List.map_take]
  have inside : j + 1 ≤ ((s.moments p start).take k).length := by
    have k_lt := (List.getElem?_eq_some_iff.mp y_at).1
    rw [List.length_take]
    omega
  unfold Report.SameObjective
  rw [← List.forall_mem_map (f := Step.event) (P := fun e => e.reloads = false), events,
    List.forall_mem_map, List.take_add_one, y_at, List.drop_append_of_le_length inside,
    List.forall_mem_append]
  simp

end Reloads

/-! ## The right-hand side of the objective row -/

/-- An exchange of an artificial variable leaves the objective's right-hand side alone, because that
of its own row has been set to zero. -/
theorem Tableau.IsVertex.rhs_objective_driveOut {t : Tableau Rat} (vertex : t.IsVertex)
    {tolerance : Rat} {i c : Nat} (found : t.driveOutColumn tolerance i = some c) :
    ((t.clearRhs i).pivot i c).objective.rhs = t.objective.rhs := by
  obtain ⟨r, at_i, _⟩ := driveOutColumn_eq_some found
  have kept : (t.clearRhs i).objective = t.objective := rfl
  rw [(vertex.clearRhs i).canonical.rhs_objective_pivot (getElem?_clearRhs_self at_i), kept,
    zero_div, mul_zero, add_zero]

section Values

variable {s : Solver Rat} {p : Problem Rat} {start : Tableau Rat} {a b : Configuration Rat}
  {m : Moment Rat} {ms : List (Moment Rat)}

/-- What a pivot of a loop does to the objective, from the tableau of its step. -/
theorem Transition.pivot_improves (step : Transition s start a m b) (vertex : a.tableau.IsVertex)
    {stage : Stage} {q : Pivot Rat} (pivot : m.event = .pivot stage q) :
    ∃ row, m.tableau.rows[q.row]? = some row ∧
      m.tableau.objective.rhs ≤ (m.tableau.pivot q.row q.column).objective.rhs ∧
      (m.tableau.objective.rhs < (m.tableau.pivot q.row q.column).objective.rhs ↔
        0 < row.row.rhs) := by
  cases step with
  | pivot _ entering leaving =>
    cases pivot
    obtain ⟨row, at_row, _⟩ := Tableau.leavingRow_eq_some_iff.mp leaving
    exact ⟨row, at_row, vertex.rhs_objective_pivot entering leaving at_row⟩
  | start | priceArtificials | driveOut | restoreObjective | finish => cases pivot

theorem Transition.rhs_le (step : Transition s start a m b) (vertex : a.tableau.IsVertex) :
    m.tableau.objective.rhs ≤ b.tableau.objective.rhs := by
  cases step with
  | start | priceArtificials | restoreObjective | finish => exact le_rfl
  | pivot _ entering leaving =>
    obtain ⟨row, at_row, _⟩ := Tableau.leavingRow_eq_some_iff.mp leaving
    exact (vertex.rhs_objective_pivot entering leaving at_row).1
  | driveOut _ found => exact (vertex.rhs_objective_driveOut found).ge

theorem Course.rhs_le (nonneg : 0 ≤ s.tolerance)
    (width : start.objective.cells.length = start.layout.width) (course : Course s start a ms b)
    (vertex : a.tableau.IsVertex ∧ a.tableau.layout = start.layout)
    (same : ∀ m ∈ ms, m.event.reloads = false) :
    a.tableau.objective.rhs ≤ b.tableau.objective.rhs := by
  induction course with
  | nil => exact le_rfl
  | @cons a b c m ms step rest ih =>
    obtain ⟨here, later⟩ := List.forall_mem_cons.mp same
    have next := (step.isVertex nonneg width vertex).1
    have kept : m.tableau = a.tableau :=
      step.tableau_eq.trans (Event.setup_of_not_reloads here _ _)
    calc a.tableau.objective.rhs = m.tableau.objective.rhs := by rw [kept]
      _ ≤ b.tableau.objective.rhs := step.rhs_le vertex.1
      _ ≤ c.tableau.objective.rhs := ih next later

end Values

namespace Solver

open Tableau

variable {p : Problem Rat} {j k : Nat} {x y : Step Rat}

/-- The right-hand side of the objective row does not fall as long as the row is not replaced. -/
theorem rhs_le_of_sameObjective (s : Solver Rat) (sized : p.WellSized) (nonneg : 0 ≤ s.tolerance)
    (le : j ≤ k) (same : (s.report p (s.trail (ofProblem p))).SameObjective j k)
    (x_at : (s.report p (s.trail (ofProblem p))).steps[j]? = some x)
    (y_at : (s.report p (s.trail (ofProblem p))).steps[k]? = some y) :
    x.tableau.objective.rhs ≤ y.tableau.objective.rhs := by
  rcases le.eq_or_lt with rfl | before
  · cases x_at.symm.trans y_at
    exact le_rfl
  · obtain ⟨a, b, c, d, to_a, at_a, between, _, at_c⟩ := s.course_between _ before x_at y_at
    obtain ⟨inner, kept⟩ := (sameObjective_iff before y_at).mp same
    have width := (canonical_ofProblem sized).objective_width
    have here := s.accounted_of_course sized nonneg to_a
    have next := (at_a.isVertex nonneg width ⟨here.vertex, here.layout⟩).1
    have shown : y.tableau = c.tableau :=
      at_c.tableau_eq.trans (Event.setup_of_not_reloads kept _ _)
    calc x.tableau.objective.rhs ≤ b.tableau.objective.rhs := at_a.rhs_le here.vertex
      _ ≤ c.tableau.objective.rhs := between.rhs_le nonneg width next inner
      _ = y.tableau.objective.rhs := by rw [shown]

/-- All steps of one loop, up to the one in which its last pivot has ended, have one objective. -/
theorem sameObjective_of_atLoop (s : Solver Rat) (start : Tableau Rat) {stage : Stage}
    (before : j < k) (x_inside : (s.report p (s.trail start)).AtLoop stage j)
    (y_inside : (s.report p (s.trail start)).AtLoop stage k)
    (x_at : (s.report p (s.trail start)).steps[j]? = some x)
    (y_at : (s.report p (s.trail start)).steps[k]? = some y)
    (kept : y.event ≠ .restoreObjective) :
    (s.report p (s.trail start)).SameObjective j k := by
  obtain ⟨a, b, c, d, to_a, at_a, between, to_c, at_c⟩ := s.course_between _ before x_at y_at
  have entered := s.control_of_atLoop to_a (s.getElem?_moments_of_step x_at) at_a x_inside
  have stays := s.control_of_atLoop to_c (s.getElem?_moments_of_step y_at) at_c y_inside
  have together : c.control.rank ≤ b.control.rank := by
    calc c.control.rank = a.control.rank := by rw [stays, entered]
      _ ≤ b.control.rank := at_a.rank_le
  exact (sameObjective_iff before y_at).mpr
    ⟨between.not_reloads together, at_c.not_reloads stays kept⟩

/-- A pivot of a loop does not lower the right-hand side of the objective row, and raises it exactly
if its own row has one above zero.  The right-hand side does not fall between two steps either, as
long as the objective row is not replaced, and within one loop it is not. -/
theorem solve_improving (s : Solver Rat) (valid : p.validate s.twoPhase = .ok ())
    (nonneg : 0 ≤ s.tolerance) :
    ∃ r, s.solve p = .ok r ∧
      (∀ x ∈ r.steps, ∀ stage q, x.event = .pivot stage q →
        ∃ row, x.tableau.rows[q.row]? = some row ∧
          x.tableau.objective.rhs ≤ (x.tableau.pivot q.row q.column).objective.rhs ∧
          (x.tableau.objective.rhs < (x.tableau.pivot q.row q.column).objective.rhs ↔
            0 < row.row.rhs)) ∧
      (∀ j k x y, j ≤ k → r.SameObjective j k → r.steps[j]? = some x → r.steps[k]? = some y →
        x.tableau.objective.rhs ≤ y.tableau.objective.rhs) ∧
      ∀ stage j k x y, j < k → r.AtLoop stage j → r.AtLoop stage k → r.steps[j]? = some x →
        r.steps[k]? = some y → y.event ≠ .restoreObjective → r.SameObjective j k := by
  have sized := p.wellSized_of_validate valid
  refine ⟨_, s.solve_of_validate valid, fun x mem stage q pivot => ?_,
    fun j k x y le same x_at y_at => s.rhs_le_of_sameObjective sized nonneg le same x_at y_at,
    fun stage j k x y before x_in y_in x_at y_at kept =>
      s.sameObjective_of_atLoop _ before x_in y_in x_at y_at kept⟩
  obtain ⟨k, at_k⟩ := List.mem_iff_getElem?.mp mem
  obtain ⟨a, b, to_a, at_a, _⟩ := s.transition_of_step at_k
  exact at_a.pivot_improves (s.accounted_of_course sized nonneg to_a).vertex pivot

/-- A cost that is made small.  The first pivot is in a row whose right-hand side is zero. -/
def tiedFloor : Problem Rat :=
  { names := ["x1", "x2"]
    objective := ⟨[-3, -1], .minimize⟩
    constraints := [⟨"tie", [1, -1], .eq, 0⟩, ⟨"floor", [1, 1], .ge, 1⟩, ⟨"cap", [1, 0], .le, 4⟩] }

theorem solve_improving_tiedFloor :
    ∃ r x y row, (Solver.mk 10 (1 / 10 ^ 9) true).solve tiedFloor = .ok r ∧
      r.steps[2]? = some x ∧ r.steps[3]? = some y ∧ r.SameObjective 2 3 ∧
      x.tableau.objective.rhs ≤ y.tableau.objective.rhs ∧
      y.event = .pivot .first ⟨2, 1, 1, 2, "x2", "a2"⟩ ∧ y.tableau.rows[1]? = some row ∧
      (y.tableau.objective.rhs < (y.tableau.pivot 1 1).objective.rhs ↔ 0 < row.row.rhs) ∧
      r.steps.map (fun x => x.tableau.objective.rhs) = [0, -1, -1, -1, 2, 2, 16] := by
  obtain ⟨r, solved, pivots, rises, loops⟩ :=
    solve_improving (Solver.mk 10 (1 / 10 ^ 9) true) (p := tiedFloor) rfl (by decide +kernel)
  have first : r.steps[2]?.map Step.event = some (.pivot .first ⟨1, 0, 0, 1, "x1", "a1"⟩) :=
    eq_of_solve (fun r => r.steps[2]?.map Step.event) solved (by decide +kernel)
  have second : r.steps[3]?.map Step.event = some (.pivot .first ⟨2, 1, 1, 2, "x2", "a2"⟩) :=
    eq_of_solve (fun r => r.steps[3]?.map Step.event) solved (by decide +kernel)
  obtain ⟨x, x_at, x_event⟩ := Option.map_eq_some_iff.mp first
  obtain ⟨y, y_at, y_event⟩ := Option.map_eq_some_iff.mp second
  have same := loops .first 2 3 x y (by decide) ⟨x, x_at, Or.inl ⟨_, x_event⟩⟩
    ⟨y, y_at, Or.inl ⟨_, y_event⟩⟩ x_at y_at (by simp [y_event])
  obtain ⟨row, at_row, _, rises_iff⟩ := pivots y (List.mem_of_getElem? y_at) _ _ y_event
  exact ⟨r, x, y, row, solved, x_at, y_at, same, rises 2 3 x y (by decide) same x_at y_at, y_event,
    at_row, rises_iff,
    eq_of_solve (·.steps.map fun x => x.tableau.objective.rhs) solved (by decide +kernel)⟩

end Solver

end LinearProgram

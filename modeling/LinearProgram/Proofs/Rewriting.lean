import LinearProgram.Proofs.Feasibility
import LinearProgram.Proofs.SecondPhase

/-!
# Every step says what the first one says

Without artificial columns, or at tolerance zero, a run only rewrites its
starting tableau.  Pivots keep the space of the equations, and so does driving
out, because the right-hand sides that it sets to zero are zero already: the
first phase is left only when the artificial variables sum to nothing.  The
objective row is exchanged twice and stays a combination of rows added to the
costs of its phase, even while artificial variables are driven out.
-/

namespace LinearProgram

/-- A run that has only rewritten its starting tableau.  While artificial variables are exchanged,
they are zero and the objective row is still about them. -/
structure Rewritten (start : Tableau Rat) (a : Configuration Rat) : Prop where
  rowSpace : a.tableau.rowSpace = start.rowSpace
  exchanging : ∀ rows, a.control = .exchanging rows →
    a.tableau.Prices (Tableau.artificialCosts start.layout) ∧ a.tableau.ArtificialsZero

variable {s : Solver Rat} {start t : Tableau Rat} {a b : Configuration Rat} {m : Moment Rat}

/-- At tolerance zero the first phase hands over artificial variables that are zero. -/
theorem Pending.artificialsZero (zero : s.tolerance = 0) {control : Control} {rows : List Nat}
    {n : Nat} (pending : Pending s start control t rows) (kept : Accounted start ⟨control, t, n⟩)
    (rewritten : Rewritten start ⟨control, t, n⟩) :
    t.Prices (Tableau.artificialCosts start.layout) ∧ t.ArtificialsZero := by
  induction pending with
  | @handOver t _ within =>
    have prices := kept.prices (by simp) (by simp)
    refine ⟨prices, kept.vertex.artificialsZero ?_⟩
    have layout : t.layout = start.layout := kept.layout
    have sum := prices.objective_rhs kept.vertex.canonical
    rw [zero, zero_mul] at within
    have costs : Control.costs start (.improving .first) = Tableau.artificialCosts t.layout := by
      rw [layout]
      rfl
    rw [costs, dot_artificialCosts] at sum
    show t.layout.artificialSum t.point ≤ 0
    linarith [not_lt.mp within]
  | rest => exact rewritten.exchanging _ rfl
  | skip _ _ ih => exact ih kept rewritten

namespace Transition

theorem rewritten (allowed : start.layout.artificials = 0 ∨ s.tolerance = 0)
    (step : Transition s start a m b) (kept : Accounted start a) (before : Rewritten start a) :
    Rewritten start b := by
  have rowSpace := before.rowSpace
  cases step with
  | start =>
    refine ⟨rowSpace, fun rows exchanging => ?_⟩
    unfold Tableau.opened at exchanging
    split at exchanging <;> cases exchanging
  | priceArtificials | restoreObjective | finish => exact ⟨rowSpace, nofun⟩
  | pivot _ entering leaving =>
    have vertex := kept.vertex
    obtain ⟨_, same⟩ := vertex.pivot (vertex.entering entering).2.1 leaving
    exact ⟨same.rowSpace.trans rowSpace, nofun⟩
  | driveOut pending found =>
    obtain ⟨r, at_i, artificial, real, large⟩ := Tableau.driveOutColumn_eq_some found
    have layout := kept.layout
    rcases allowed with none | zero
    · obtain ⟨k, inside, _⟩ := Layout.exists_artificialColumn artificial
      rw [layout, none] at inside
      exact absurd inside (Nat.not_lt_zero k)
    · obtain ⟨prices, artificials⟩ := pending.artificialsZero zero kept before
      have rhs := artificials r (List.mem_of_getElem? at_i) artificial
      have nonzero : r.row.entry _ ≠ 0 := abs_pos.mp (zero.ge.trans_lt large)
      obtain ⟨_, same⟩ := kept.vertex.pivot_of_rhs_eq_zero at_i rhs nonzero
        (real.trans_le (Nat.le_add_right _ _))
      show Rewritten start ⟨_, (Tableau.clearRhs _ _).pivot _ _, _⟩
      rw [Tableau.clearRhs_eq_self at_i rhs]
      exact ⟨same.rowSpace.trans rowSpace, fun _ _ => ⟨same.prices prices,
        artificials.pivot_of_rhs_eq_zero kept.vertex.solved at_i rhs real⟩⟩

/-- What is recorded of a run that has only rewritten its starting tableau. -/
theorem rewritten_moment (width : start.objective.cells.length = start.layout.width)
    (step : Transition s start a m b) (kept : Accounted start a) (before : Rewritten start a) :
    m.tableau.rowSpace = start.rowSpace ∧
    (¬ (a.control.InFirstPhase ∧ m.event ≠ .restoreObjective) →
      m.tableau.Prices start.objective.cells) ∧
    (a.control.InFirstPhase ∧ m.event ≠ .restoreObjective →
      m.tableau.Prices (Tableau.artificialCosts start.layout)) := by
  obtain ⟨own, artificial⟩ := step.prices width kept
  refine ⟨?_, own, fun inside => ?_⟩
  · rw [← before.rowSpace, Tableau.rowSpace, step.tableau_eq, Event.setup_rows]
    rfl
  · by_cases exchanging : ∃ rows, a.control = .exchanging rows
    · obtain ⟨rows, control⟩ := exchanging
      have prices := (before.exchanging rows control).1
      cases step with
      | driveOut => exact prices
      | restoreObjective => exact absurd rfl inside.2
      | start | priceArtificials | pivot | finish => cases control
    · exact artificial inside (not_exists.mp exchanging)

end Transition

namespace Solver

open Tableau

variable {p : Problem Rat}

theorem tableau_of_validate {twoPhase : Bool} (valid : p.validate twoPhase = .ok ()) :
    p.tableau twoPhase = .ok (ofProblem p) := by
  unfold Problem.tableau
  rw [valid]
  rfl

/-- Every step has the solutions of the first one.  Its objective row is the first one plus a
combination of the first one's constraint rows, and in the first phase the row of the artificial
variables plus such a combination. -/
theorem solve_rewrites (s : Solver Rat) (valid : p.validate s.twoPhase = .ok ())
    (nonneg : 0 ≤ s.tolerance) (allowed : p.layout.artificials = 0 ∨ s.tolerance = 0) :
    ∃ r first, s.solve p = .ok r ∧ r.steps.head? = some first ∧
      p.tableau s.twoPhase = .ok first.tableau ∧
      ∀ k x, r.steps[k]? = some x →
        (∀ y, x.tableau.SatisfiedBy y ↔ first.tableau.SatisfiedBy y) ∧
        (¬ r.InFirstPhase k →
          first.tableau.Derives first.tableau.objective x.tableau.objective) ∧
        (r.InFirstPhase k →
          first.tableau.Derives ⟨artificialCosts first.tableau.layout, 1, 0⟩
            x.tableau.objective) := by
  have sized := p.wellSized_of_validate valid
  have canonical := canonical_ofProblem sized
  have width := canonical.objective_width
  refine ⟨_, _, s.solve_of_validate valid, s.head_steps_report p _, tableau_of_validate valid,
    fun k x at_k => ?_⟩
  obtain ⟨a, b, before, step, phase, _⟩ := s.transition_of_step at_k
  obtain ⟨kept, rewritten⟩ : Accounted (ofProblem p) a ∧ Rewritten (ofProblem p) a := by
    refine before.keeps (I := fun a => Accounted (ofProblem p) a ∧ Rewritten (ofProblem p) a)
      (fun step both => ?_) ⟨accounted_ofProblem sized, ⟨rfl, nofun⟩⟩
    exact ⟨step.accounted nonneg width both.1, step.rewritten allowed both.1 both.2⟩
  obtain ⟨rowSpace, own, artificial⟩ := step.rewritten_moment width kept rewritten
  obtain ⟨_, vertex, _⟩ := step.isVertex nonneg width ⟨kept.vertex, kept.layout⟩
  have mark := vertex.canonical.objective_mark
  refine ⟨fun y => ?_, fun outside => ?_, fun inside => ?_⟩
  · rw [satisfiedBy_iff_rowSpace, satisfiedBy_iff_rowSpace, rowSpace]
  · exact canonical.solved.derives mark (rowSpace ▸ own (phase.not.mp outside))
  · exact canonical.solved.derives mark (rowSpace ▸ artificial (phase.mp inside))

/-- Two equations that are one, so that an artificial variable is driven out on a negative entry and
another one stays basic. -/
def doubledTie : Problem Rat :=
  { names := ["x1", "x2", "x3"]
    objective := ⟨[0, 1, 1], .maximize⟩
    constraints := [⟨"tie", [-1, -1, 0], .eq, 0⟩, ⟨"again", [-2, -2, 0], .eq, 0⟩,
      ⟨"floor", [0, 0, 1], .ge, 1⟩, ⟨"cap", [0, 1, 1], .le, 4⟩] }

theorem solve_rewrites_doubledTie :
    ∃ r first last, (Solver.mk 10 0 true).solve doubledTie = .ok r ∧
      r.steps.head? = some first ∧ r.steps.getLast? = some last ∧
      (∀ y, last.tableau.SatisfiedBy y ↔ first.tableau.SatisfiedBy y) ∧
      first.tableau.Derives first.tableau.objective last.tableau.objective ∧
      r.pivots.map (fun p => (p.leaving, p.entering)) =
        [("a3", "x3"), ("a1", "x1"), ("x1", "x2"), ("s2", "s1")] := by
  obtain ⟨r, first, solved, head, _, rewrites⟩ :=
    solve_rewrites (Solver.mk 10 0 true) (p := doubledTie) rfl le_rfl (Or.inr rfl)
  have phase := eq_of_solve (fun r => decide (r.steps.length = 8 ∧ ¬ r.InFirstPhase 7)) solved
    (x := true) (by decide +kernel)
  obtain ⟨length, outside⟩ := of_decide_eq_true phase
  have inside : 7 < r.steps.length := by omega
  obtain ⟨same, own, _⟩ := rewrites 7 r.steps[7] (List.getElem?_eq_getElem inside)
  have last : r.steps.getLast? = some r.steps[7] := by
    rw [List.getLast?_eq_getElem?, length, List.getElem?_eq_getElem inside]
  exact ⟨r, first, r.steps[7], solved, head, last, same, own outside,
    eq_of_solve (·.pivots.map fun p => (p.leaving, p.entering)) solved (by decide +kernel)⟩

end Solver

end LinearProgram

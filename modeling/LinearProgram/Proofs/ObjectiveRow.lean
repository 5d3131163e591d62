import Mathlib.LinearAlgebra.Finsupp.LinearCombination
import LinearProgram.Proofs.Phase
import LinearProgram.Proofs.UnitBasis

/-!
# What an objective row is made of

An objective row starts as the row of some costs, and from then on only
multiples of constraint rows are taken away from it.  So it is these costs plus
a combination of the rows of its own tableau, whatever has happened to those
rows in the meantime: `Prices` says so with gaps, `Derives` entry by entry.
`Transition.prices` says which costs they are at every recorded moment.
-/

namespace LinearProgram

namespace Row

/-- What a row says is known from its gaps: its right-hand side. -/
theorem rhs_eq_gap (r : Row Rat) : r.rhs = r.gap 0 := by
  have zero : dot r.cells 0 = 0 := dot_eq_zero fun _ _ => mul_zero _
  rw [gap, zero, sub_zero]

/-- What a row says is known from its gaps: its entries. -/
theorem entry_eq_gap (r : Row Rat) (c : Nat) : r.entry c = r.gap 0 - r.gap (Pi.single c 1) := by
  have unit : dot r.cells (Pi.single c 1) = r.entry c := by
    rcases Nat.lt_or_ge c r.cells.length with inside | outside
    · rw [dot_eq_single inside fun j _ ne => by rw [Pi.single_eq_of_ne ne, mul_zero],
        Pi.single_eq_same, mul_one]
      rfl
    · rw [entry_of_le outside]
      refine dot_eq_zero fun j j_lt => ?_
      rw [Pi.single_eq_of_ne (by omega), mul_zero]
  rw [← rhs_eq_gap, gap, unit, sub_sub_cancel]

end Row

namespace Tableau

variable {t u : Tableau Rat} {costs : List Rat}

/-! ## Combinations of rows -/

/-- A row is another one plus a linear combination of the constraint rows, in every column. -/
def Derives (t : Tableau Rat) (base o : Row Rat) : Prop :=
  ∃ factors : Fin t.rows.length → Rat,
    (∀ c, o.entry c = base.entry c + ∑ i, factors i * t.rows[i].row.entry c) ∧
    o.mark = base.mark + ∑ i, factors i * t.rows[i].row.mark ∧
    o.rhs = base.rhs + ∑ i, factors i * t.rows[i].row.rhs

theorem rowSpace_eq_span_range (t : Tableau Rat) :
    t.rowSpace = Submodule.span Rat (Set.range fun i : Fin t.rows.length => t.rows[i].row.gap) := by
  unfold rowSpace
  congr 1
  ext g
  simp only [Set.mem_ofPred_eq, Set.mem_range]
  constructor
  · rintro ⟨r, mem, rfl⟩
    obtain ⟨i, i_lt, rfl⟩ := List.mem_iff_getElem.mp mem
    exact ⟨⟨i, i_lt⟩, rfl⟩
  · rintro ⟨i, rfl⟩
    exact ⟨t.rows[i], List.getElem_mem i.isLt, rfl⟩

/-- Rows whose gaps differ by a combination of the constraint rows' gaps differ by it in every
column, since the constraint rows do not reach into the marked one. -/
theorem Solved.derives (solved : t.Solved) {base o : Row Rat} (mark : o.mark = base.mark)
    (differ : o.gap - base.gap ∈ t.rowSpace) : t.Derives base o := by
  rw [rowSpace_eq_span_range] at differ
  obtain ⟨factors, sum⟩ := (Submodule.mem_span_range_iff_exists_fun Rat).mp differ
  have gaps : ∀ x, o.gap x = base.gap x + ∑ i, factors i * t.rows[i].row.gap x := by
    intro x
    have at_x := congrFun sum x
    simp only [Finset.sum_apply, Pi.smul_apply, smul_eq_mul, Pi.sub_apply] at at_x
    linarith
  refine ⟨factors, fun c => ?_, ?_, ?_⟩
  · simp only [Row.entry_eq_gap, gaps, mul_sub, Finset.sum_sub_distrib]
    ring
  · have zero : ∀ i : Fin t.rows.length, t.rows[i].row.mark = 0 :=
      fun i => solved.mark _ (List.getElem_mem i.isLt)
    rw [Finset.sum_eq_zero fun i _ => mul_eq_zero_of_right _ (zero i), add_zero, mark]
  · simp only [Row.rhs_eq_gap, gaps]

/-! ## Costs -/

/-- The objective row is the row of these costs plus a combination of the constraint rows. -/
def Prices (t : Tableau Rat) (costs : List Rat) : Prop :=
  t.objective.gap - (Row.mk costs 1 0).gap ∈ t.rowSpace

theorem Equivalent.prices (same : t.Equivalent u) (prices : t.Prices costs) : u.Prices costs := by
  unfold Prices
  rw [same.rowSpace, ← sub_add_sub_cancel u.objective.gap t.objective.gap]
  exact add_mem same.objective prices

theorem Solved.prices_loadObjective (solved : t.Solved) (width : costs.length = t.layout.width) :
    (t.loadObjective costs).Prices costs :=
  solved.gap_loadObjective_sub_mem width

/-- The right-hand side of the objective row is what the costs come to at the basic point. -/
theorem Prices.objective_rhs (prices : t.Prices costs) (canonical : t.Canonical) :
    t.objective.rhs = -dot costs t.point := by
  have zero := (satisfiedBy_iff_rowSpace t _).mp canonical.solved.satisfiedBy_point _ prices
  rw [← canonical.gap_objective_point, sub_eq_zero.mp zero]
  exact zero_sub _

theorem prices_ofProblem (p : Problem Rat) :
    (ofProblem p).Prices (ofProblem p).objective.cells := by
  have same : (ofProblem p).objective = ⟨(ofProblem p).objective.cells, 1, 0⟩ := rfl
  unfold Prices
  rw [← same, sub_self]
  exact zero_mem _

end Tableau

/-! ## Along a run -/

/-- The costs that the objective row is about, by the state of a run. -/
def Control.costs (start : Tableau Rat) : Control → List Rat
  | improving .first | exchanging _ => Tableau.artificialCosts start.layout
  | _ => start.objective.cells

/-- A run is at a vertex, and its objective row is about the costs of its state, except while
artificial variables are exchanged: then rows change that the objective row was made of. -/
structure Accounted (start : Tableau Rat) (a : Configuration Rat) : Prop where
  vertex : a.tableau.IsVertex
  layout : a.tableau.layout = start.layout
  prices : (∀ rows, a.control ≠ .exchanging rows) → a.control ≠ .finished →
    a.tableau.Prices (a.control.costs start)

variable {s : Solver Rat} {start : Tableau Rat} {a b : Configuration Rat} {m : Moment Rat}

namespace Transition

theorem accounted (nonneg : 0 ≤ s.tolerance)
    (width : start.objective.cells.length = start.layout.width)
    (step : Transition s start a m b) (kept : Accounted start a) : Accounted start b := by
  obtain ⟨vertex, layout, prices⟩ := kept
  obtain ⟨⟨next_vertex, next_layout⟩, _⟩ := step.isVertex nonneg width ⟨vertex, layout⟩
  refine ⟨next_vertex, next_layout, fun unexchanged active => ?_⟩
  cases step with
  | start =>
    unfold Tableau.opened
    split <;> exact prices (by simp) (by simp)
  | priceArtificials =>
    show Tableau.Prices _ (Tableau.artificialCosts start.layout)
    rw [← layout]
    exact vertex.solved.prices_loadObjective (Tableau.length_artificialCosts _)
  | pivot _ entering leaving =>
    obtain ⟨_, same⟩ := vertex.pivot (vertex.entering entering).2.1 leaving
    exact same.prices (prices (by simp) (by simp))
  | driveOut => exact absurd rfl (unexchanged _)
  | restoreObjective =>
    refine vertex.solved.prices_loadObjective ?_
    rw [width, ← layout]
  | finish => exact absurd rfl active

/-- Outside the first phase the recorded objective row is about the problem's own costs, and in it
about the artificial variables, until the first one of these is driven out. -/
theorem prices (width : start.objective.cells.length = start.layout.width)
    (step : Transition s start a m b) (kept : Accounted start a) :
    (¬ (a.control.InFirstPhase ∧ m.event ≠ .restoreObjective) →
      m.tableau.Prices start.objective.cells) ∧
    (a.control.InFirstPhase ∧ m.event ≠ .restoreObjective →
      (∀ rows, a.control ≠ .exchanging rows) →
      m.tableau.Prices (Tableau.artificialCosts start.layout)) := by
  obtain ⟨vertex, layout, prices⟩ := kept
  cases step with
  | start => exact ⟨fun _ => prices (by simp) (by simp), fun first => absurd first.1 id⟩
  | priceArtificials =>
    refine ⟨fun other => absurd ⟨trivial, by simp⟩ other, fun _ _ => ?_⟩
    rw [← layout]
    exact vertex.solved.prices_loadObjective (Tableau.length_artificialCosts _)
  | @pivot stage | @finish stage =>
    have here := prices (by simp) (by simp)
    cases stage with
    | first => exact ⟨fun other => absurd ⟨trivial, by simp⟩ other, fun _ _ => here⟩
    | only | second => exact ⟨fun _ => here, fun first => absurd first.1 id⟩
  | driveOut pending =>
    refine ⟨fun other => absurd ⟨pending.inFirstPhase, by simp⟩ other, fun _ unexchanged => ?_⟩
    rcases pending.control_eq with rfl | ⟨left, rfl⟩
    · exact prices (by simp) (by simp)
    · exact absurd rfl (unexchanged left)
  | restoreObjective =>
    refine ⟨fun _ => vertex.solved.prices_loadObjective ?_, fun first => absurd rfl first.2⟩
    rw [width, ← layout]

end Transition

theorem accounted_ofProblem {p : Problem Rat} (sized : p.WellSized) :
    Accounted (Tableau.ofProblem p) ⟨.opening, Tableau.ofProblem p, 0⟩ :=
  ⟨Tableau.isVertex_ofProblem sized, rfl, fun _ _ => Tableau.prices_ofProblem p⟩

end LinearProgram

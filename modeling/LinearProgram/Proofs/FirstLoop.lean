import LinearProgram.Proofs.Progress

/-!
# The loop of the first phase

The first phase takes any end of its loop but a spent budget for an optimum, and
does not ask whether a column could enter that no row leaves for.  It need not
ask.  In every tableau that the loop is in, the objective row gives what the
artificial variables sum to, with its sign turned, so a column that can enter
without bound would make them negative.
-/

namespace LinearProgram.Solver

open Tableau

variable {p : Problem Rat}

/-- Every tableau of the first phase rewrites the one in which the artificial variables were
priced. -/
theorem reach_of_mem_visited_firstPhase (s : Solver Rat) (sized : p.WellSized) {t : Tableau Rat}
    (mem : t ∈ (s.firstPhase (ofProblem p)).visited) :
    t.IsVertex ∧ (ofProblem p).priceArtificials.Equivalent t :=
  (isVertex_priceArtificials sized).reach (reach_of_mem_visited t mem)

theorem rhs_nonpos_of_priced (sized : p.WellSized) {t : Tableau Rat} (vertex : t.IsVertex)
    (same : (ofProblem p).priceArtificials.Equivalent t) : t.objective.rhs ≤ 0 := by
  have sum_nonneg : 0 ≤ p.layout.artificialSum t.point :=
    Layout.artificialSum_nonneg fun j _ => vertex.point_nonneg j
  rw [artificialSum_point sized vertex same] at sum_nonneg
  exact neg_nonneg.mp sum_nonneg

/-- The loop of the first phase ends without a column to enter or with its budget spent.  In every
tableau that it has been in, the objective is bounded by zero, and a column that can enter has a
positive entry in some row. -/
theorem solve_firstPhase_bounded (s : Solver Rat) (valid : p.validate s.twoPhase = .ok ())
    (artificials : p.layout.artificials ≠ 0) :
    ∃ r, s.solve p = .ok r ∧ (s.firstPhase (ofProblem p)).moments <:+: r.moments ∧
      ((s.firstPhase (ofProblem p)).verdict = .optimal ∨
        (s.firstPhase (ofProblem p)).verdict = .limitReached) ∧
      ∀ t ∈ (s.firstPhase (ofProblem p)).visited, t.objective.rhs ≤ 0 ∧
        ∀ c, t.enteringColumn true = some c → ∃ q ∈ t.rows, 0 < q.row.entry c := by
  have sized := p.wellSized_of_validate valid
  refine ⟨_, s.solve_of_validate valid, ?_, (s.firstPhase_verdict_cases sized).imp_left And.left,
    fun t mem => ?_⟩
  · exact (s.firstPhase_infix_trail (t := ofProblem p) artificials).trans
      (s.trail_prefix_report p _).isInfix
  · obtain ⟨vertex, same⟩ := s.reach_of_mem_visited_firstPhase sized mem
    refine ⟨rhs_nonpos_of_priced sized vertex same, fun c entering => ?_⟩
    have leaves := leavingRow_ne_none_of_priced sized vertex same entering
    by_contra no_entry
    exact leaves (leavingRow_eq_none_iff.mpr fun q q_mem =>
      not_lt.mp fun positive => no_entry ⟨q, q_mem, positive⟩)

theorem solve_firstPhase_bounded_twoFloors :
    ∃ r, (Solver.mk 10 0 true).solve twoFloors = .ok r ∧
      ((Solver.mk 10 0 true).firstPhase (ofProblem twoFloors)).moments <:+: r.moments ∧
      ((Solver.mk 10 0 true).firstPhase (ofProblem twoFloors)).moments.length = 2 ∧
      ((Solver.mk 10 0 true).firstPhase (ofProblem twoFloors)).verdict = .optimal ∧
      (ofProblem twoFloors).priceArtificials.enteringColumn true = some 1 ∧
      ∃ q ∈ (ofProblem twoFloors).priceArtificials.rows, 0 < q.row.entry 1 := by
  obtain ⟨r, solved, shown, _, bounded⟩ :=
    solve_firstPhase_bounded (Solver.mk 10 0 true) (p := twoFloors) rfl (by decide +kernel)
  have entering : (ofProblem twoFloors).priceArtificials.enteringColumn true = some 1 := by
    decide +kernel
  exact ⟨r, solved, shown, by decide +kernel, by decide +kernel, entering,
    (bounded _ (self_mem_visited _ _ _ _)).2 1 entering⟩

end LinearProgram.Solver

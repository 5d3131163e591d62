import LinearProgram.Proofs.Progress

/-!
# Exchanging artificial variables moves nothing

Between the phases, artificial variables are exchanged for real ones by pivots
that no ratio test has chosen, on entries of either sign.  Still no real variable
changes its value.  The pivot row has its right-hand side cleared first, so the
pivot takes a multiple of zero from every other right-hand side, and the variable
that enters, which was not basic and hence zero, is zero afterwards.

* `Tableau.Exchanged`: what stays the same, as a relation between two tableaux.
* `Tableau.IsVertex.exchanged`: one exchange.
* `Tableau.IsVertex.exchanged_driveOut`: any number of them.
-/

namespace LinearProgram

namespace Tableau

/-- The second tableau has artificial variables of the first one exchanged for real ones, at the
same point as far as real variables go. -/
structure Exchanged (t u : Tableau Rat) : Prop where
  layout : u.layout = t.layout
  /-- Every decision and slack variable keeps its value. -/
  point : ∀ c < t.layout.realCount, u.point c = t.point c
  /-- No real variable leaves the basis, nor its row. -/
  real : ∀ (k : Nat) (q : BasicRow Rat), t.rows[k]? = some q → q.basic < t.layout.realCount →
    ∃ s, u.rows[k]? = some s ∧ s.basic = q.basic
  /-- No artificial variable enters the basis, and one that stays keeps its row and its value. -/
  artificial : ∀ (k : Nat) (s : BasicRow Rat), u.rows[k]? = some s →
    t.layout.isArtificial s.basic = true →
    ∃ q, t.rows[k]? = some q ∧ q.basic = s.basic ∧ q.row.rhs = s.row.rhs

variable {t u v : Tableau Rat} {i c : Nat} {tolerance : Rat}

namespace Exchanged

theorem refl (t : Tableau Rat) : t.Exchanged t :=
  ⟨rfl, fun _ _ => rfl, fun _ q q_at _ => ⟨q, q_at, rfl⟩, fun _ s s_at _ => ⟨s, s_at, rfl, rfl⟩⟩

theorem trans (first : t.Exchanged u) (second : u.Exchanged v) : t.Exchanged v := by
  have layout := first.layout
  refine ⟨second.layout.trans layout, fun c real => ?_, fun k q q_at real => ?_,
    fun k s s_at artificial => ?_⟩
  · exact (second.point c (layout ▸ real)).trans (first.point c real)
  · obtain ⟨r, r_at, r_basic⟩ := first.real k q q_at real
    obtain ⟨s, s_at, s_basic⟩ := second.real k r r_at (layout ▸ r_basic ▸ real)
    exact ⟨s, s_at, s_basic.trans r_basic⟩
  · obtain ⟨r, r_at, r_basic, r_rhs⟩ := second.artificial k s s_at (layout ▸ artificial)
    obtain ⟨q, q_at, q_basic, q_rhs⟩ := first.artificial k r r_at (r_basic ▸ artificial)
    exact ⟨q, q_at, q_basic.trans r_basic, q_rhs.trans r_rhs⟩

end Exchanged

/-! ## One exchange -/

/-- Every row but the one that is exchanged keeps its basic variable and its right-hand side. -/
theorem exists_driveOut_row (solved : t.Solved) (found : t.driveOutColumn tolerance i = some c)
    {k : Nat} {q : BasicRow Rat} (q_at : t.rows[k]? = some q) (ne : k ≠ i) :
    ∃ s, ((t.clearRhs i).pivot i c).rows[k]? = some s ∧ s.basic = q.basic ∧
      s.row.rhs = q.row.rhs := by
  obtain ⟨r, at_i, _⟩ := driveOutColumn_eq_some found
  have kept : (t.clearRhs i).rows[k]? = some q :=
    (List.getElem?_modify_ne _ _ ne.symm).trans q_at
  have at_k := getElem?_pivot_of_ne (getElem?_clearRhs_self at_i) kept ne c
  rcases driveOut_row_cases solved found at_k with ⟨here, _⟩ | ⟨_, r, r_at, _, rhs, _⟩
  · exact absurd here ne
  · cases q_at.symm.trans r_at
    exact ⟨_, at_k, rfl, rhs⟩

/-- The row of a real basic variable is not the one that is exchanged. -/
theorem ne_of_driveOutColumn (found : t.driveOutColumn tolerance i = some c) {k : Nat}
    {q : BasicRow Rat} (q_at : t.rows[k]? = some q) (real : q.basic < t.layout.realCount) :
    k ≠ i := by
  rintro rfl
  obtain ⟨r, at_i, artificial, _⟩ := driveOutColumn_eq_some found
  cases at_i.symm.trans q_at
  exact Layout.not_isArtificial_of_lt real artificial

/-- A real variable is basic afterwards because it was, or has just entered at zero. -/
theorem IsVertex.point_driveOut (vertex : t.IsVertex) (nonneg : 0 ≤ tolerance)
    (found : t.driveOutColumn tolerance i = some c) {j : Nat} (real : j < t.layout.realCount) :
    ((t.clearRhs i).pivot i c).point j = t.point j := by
  have next := vertex.driveOut nonneg found
  -- A variable that was not basic is zero.  If it is basic now, it is the one that has entered.
  rcases t.basic_or_nonbasic j with ⟨q, q_mem, rfl⟩ | nonbasic
  · obtain ⟨k, q_at⟩ := List.mem_iff_getElem?.mp q_mem
    obtain ⟨s, s_at, basic, rhs⟩ := exists_driveOut_row vertex.solved found q_at
      (ne_of_driveOutColumn found q_at real)
    calc ((t.clearRhs i).pivot i c).point q.basic
        = s.row.rhs := by rw [← basic, next.solved.point_basic (List.mem_of_getElem? s_at)]
      _ = t.point q.basic := by rw [rhs, vertex.solved.point_basic q_mem]
  · rw [point_nonbasic nonbasic]
    rcases ((t.clearRhs i).pivot i c).basic_or_nonbasic j with ⟨s, s_mem, rfl⟩ | outside
    · obtain ⟨k, s_at⟩ := List.mem_iff_getElem?.mp s_mem
      rcases driveOut_row_cases vertex.solved found s_at with
        ⟨_, _, zero⟩ | ⟨_, q, q_at, basic, _⟩
      · rw [next.solved.point_basic s_mem, zero]
      · exact absurd basic.symm (nonbasic q (List.mem_of_getElem? q_at))
    · exact point_nonbasic outside

theorem IsVertex.exchanged (vertex : t.IsVertex) (nonneg : 0 ≤ tolerance)
    (found : t.driveOutColumn tolerance i = some c) :
    t.Exchanged ((t.clearRhs i).pivot i c) := by
  refine ⟨by simp, fun j real => vertex.point_driveOut nonneg found real,
    fun k q q_at real => ?_, fun k s s_at artificial => ?_⟩
  · obtain ⟨s, s_at, basic, _⟩ := exists_driveOut_row vertex.solved found q_at
      (ne_of_driveOutColumn found q_at real)
    exact ⟨s, s_at, basic⟩
  · obtain ⟨_, q, q_at, basic, rhs, _⟩ :=
      driveOut_row_of_artificial vertex.solved found s_at artificial
    exact ⟨q, q_at, basic.symm, rhs.symm⟩

/-! ## All exchanges -/

/-- A moment at which a real variable is exchanged for an artificial one, on an entry that is not
zero. -/
structure IsExchange (m : Moment Rat) (q : Pivot Rat) : Prop where
  event : m.event = .driveOut q
  element : q.element = m.tableau.entry q.row q.column
  nonzero : q.element ≠ 0
  entering : q.column < m.tableau.layout.realCount
  leaving : ∃ a, m.tableau.basicColumn q.row = some a ∧ m.tableau.layout.isArtificial a = true

theorem isExchange_pivotAt (nonneg : 0 ≤ tolerance) (iterations : Nat)
    (found : t.driveOutColumn tolerance i = some c) :
    IsExchange ⟨.driveOut (t.pivotAt iterations i c), t⟩ (t.pivotAt iterations i c) := by
  obtain ⟨r, at_i, artificial, real, large⟩ := driveOutColumn_eq_some found
  have element : (t.pivotAt iterations i c).element = r.row.entry c := by
    simp [pivotAt, entry, at_i]
  have nonzero : r.row.entry c ≠ 0 := abs_pos.mp (nonneg.trans_lt large)
  exact ⟨rfl, rfl, element ▸ nonzero, real, r.basic, by simp [basicColumn, pivotAt, at_i],
    artificial⟩

theorem IsVertex.exchanged_driveOut (vertex : t.IsVertex) (nonneg : 0 ≤ tolerance)
    (iterations : Nat) (rows : List Nat) :
    t.Exchanged (t.driveOut tolerance iterations rows).2 ∧
      ∀ m ∈ (t.driveOut tolerance iterations rows).1, ∃ q, IsExchange m q := by
  induction rows generalizing t with
  | nil => exact ⟨.refl t, fun m mem => absurd mem List.not_mem_nil⟩
  | cons i rest ih =>
    rw [Tableau.driveOut]
    split
    · exact ih vertex
    · next c found =>
      obtain ⟨later, moments⟩ := ih (vertex.driveOut nonneg found)
      exact ⟨(vertex.exchanged nonneg found).trans later,
        List.forall_mem_cons.mpr ⟨⟨_, isExchange_pivotAt nonneg iterations found⟩, moments⟩⟩

end Tableau

namespace Solver

open Tableau

variable {p : Problem Rat}

/-- A first phase that goes on to the second hands over a vertex from which artificial variables are
exchanged, each on an entry that is not zero, and these exchanges, which the report shows right
after the loop, leave every real variable where it is. -/
theorem solve_exchanged (s : Solver Rat) (valid : p.validate s.twoPhase = .ok ())
    (artificials : p.layout.artificials ≠ 0) (nonneg : 0 ≤ s.tolerance)
    (finished : (s.firstPhase (ofProblem p)).verdict ≠ .limitReached)
    (within : ¬ s.tolerance * (ofProblem p).rhsScale < s.residual (ofProblem p)) :
    ∃ r, s.solve p = .ok r ∧
      (s.firstPhase (ofProblem p)).moments ++ s.exchanges (ofProblem p) ++
        [⟨.restoreObjective,
          (s.drivenOut (ofProblem p)).loadObjective (ofProblem p).objective.cells⟩] <:+:
        r.moments ∧
      (∀ m ∈ s.exchanges (ofProblem p), ∃ q, IsExchange m q) ∧
      (s.firstPhase (ofProblem p)).tableau.Exchanged (s.drivenOut (ofProblem p)) := by
  have vertex := (s.reach_firstPhase (p.wellSized_of_validate valid)).1
  obtain ⟨same, moments⟩ := vertex.exchanged_driveOut nonneg (s.firstPhase (ofProblem p)).iterations
    (List.range (s.firstPhase (ofProblem p)).tableau.constraintCount)
  refine ⟨_, s.solve_of_validate valid, ?_, moments, same⟩
  refine List.IsInfix.trans ?_ (s.trail_prefix_report p _).isInfix
  rw [s.moments_trail_of_within artificials finished within]
  exact List.infix_append _ _ _

/-- Two equations with right-hand sides within the tolerance of zero, one of them empty.  In the
other, no entry is positive. -/
def hairline : Problem Rat :=
  { names := ["x1", "x2"]
    objective := ⟨[1, 1], .maximize⟩
    constraints := [⟨"sum", [-1, -1], .eq, 1 / 10 ^ 10⟩, ⟨"first", [1, 0], .ge, 0⟩,
      ⟨"second", [0, 1], .le, 3⟩, ⟨"empty", [0, 0], .eq, 1 / 10 ^ 10⟩] }

/-- Both exchanges are made on the entry -1, the second where the first has put it, and `a3` stays
in its row. -/
theorem solve_exchanged_hairline :
    ∃ r, (Solver.mk 10 (1 / 10 ^ 9) true).solve hairline = .ok r ∧
      (∀ m ∈ (Solver.mk 10 (1 / 10 ^ 9) true).exchanges (ofProblem hairline),
        ∃ q, IsExchange m q) ∧
      ((Solver.mk 10 (1 / 10 ^ 9) true).exchanges (ofProblem hairline)).map
          (fun m => m.event.pivot?.map fun q => (q.leaving, q.entering, q.element)) =
        [some ("a1", "x1", -1), some ("a2", "x2", -1)] ∧
      ((Solver.mk 10 (1 / 10 ^ 9) true).firstPhase (ofProblem hairline)).tableau.Exchanged
        ((Solver.mk 10 (1 / 10 ^ 9) true).drivenOut (ofProblem hairline)) ∧
      ((Solver.mk 10 (1 / 10 ^ 9) true).drivenOut (ofProblem hairline)).rows.map
          (fun q => (q.basic, q.row.rhs)) = [(0, 0), (1, 0), (3, 3), (6, 1 / 10 ^ 10)] := by
  obtain ⟨r, solved, _, moments, same⟩ :=
    solve_exchanged (Solver.mk 10 (1 / 10 ^ 9) true) (p := hairline) rfl (by decide +kernel)
      (by decide +kernel) (by decide +kernel) (by decide +kernel)
  exact ⟨r, solved, moments, by decide +kernel, same, by decide +kernel⟩

end Solver

end LinearProgram

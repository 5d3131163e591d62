import LinearProgram.Proofs.FloatingPoint.Overflow
import LinearProgram.Proofs.Replay
import LinearProgram.Report.Narration

/-!
# The column of an unbounded verdict

An unbounded verdict names a column.  Its entry in the objective row is
negative, and no row of the last tableau limits how far its variable can grow.

The sentence about the verdict says more: that no row has a positive entry in
the column.  In floating point this is not always so.  A row limits the variable
by the ratio of its right-hand side to its entry, and the leaving rule passes
over a ratio that comes out as infinity.  So a positive entry can stand in a row
whose right-hand side is no number any more, or whose ratio overflows, which
takes an exact ratio of at least the largest number.

* `Solver.solve_unboundedColumn`: what an unbounded verdict says of its column.
* `Solver.solve_unbounded_farCap`: the sentence can be wrong.
-/

namespace LinearProgram

open FloatingPoint

/-- The column that an event calls unbounded, if it does. -/
def Event.unboundedColumn? {α : Type} : Event α → Option Nat
  | finish (.unbounded k) _ => some k
  | _ => none

namespace Tableau

/-- The candidates of the leaving rule come from the rows with a positive entry, and where it takes
none they are not below infinity. -/
theorem not_belowInfinity_of_leavingRow {α : Type} [Scalar α] {t : Tableau α} {c : Nat}
    (none_leaves : t.leavingRow c = none) {r : BasicRow α} (mem : r ∈ t.rows)
    (positive : 0 < r.row.entry c) :
    Scalar.belowInfinity (r.row.rhs / r.row.entry c) = false := by
  have candidate : ratio c r = some (r.row.rhs / r.row.entry c) := if_pos positive
  exact (leastIndexFrom_eq_none none_leaves).2 _ (candidate ▸ List.mem_map_of_mem mem)

variable {t : Tableau Float} {c : Nat}

theorem entry_lt_zero_of_entering {withArtificials : Bool}
    (entering : t.enteringColumn withArtificials = some c) : t.objective.entry c < 0 := by
  have start : ∀ x : Float, isBelow (some 0) x = true → x < 0.0 :=
    fun x below => of_decide_eq_true below
  obtain ⟨x, at_c, negative⟩ :=
    leastIndex_chosen start (fun b x negative below => lt_zero_of_lt below negative) entering
  rw [List.getElem?_map, Option.map_eq_some_iff] at at_c
  obtain ⟨y, taken, same⟩ := at_c
  cases same
  rw [List.getElem?_take, Option.ite_none_right_eq_some] at taken
  have entry : t.objective.entry c = x := by
    simp [Row.entry, taken.2]
  rw [entry]
  exact negative

/-- A row that does not limit a column with a positive entry in it: its right-hand side is no
number, or the exact ratio is at least the largest number. -/
theorem largest_mul_entry_le (none_leaves : t.leavingRow c = none) {r : BasicRow Float}
    (mem : r ∈ t.rows) (positive : 0 < r.row.entry c) (number : r.row.rhs.isFinite = true) :
    (r.row.entry c).isFinite = true ∧ largest * exactValue (r.row.entry c) ≤ exactValue r.row.rhs :=
  largest_mul_le_of_not_lt number positive
    (of_decide_eq_false (not_belowInfinity_of_leavingRow none_leaves mem positive))

end Tableau

namespace Solver

variable {p : Problem Float}

/-- The column that an unbounded verdict names exists and has a negative entry in the objective row.
Every row with a positive entry in it has a right-hand side that is no number, or one so large that
the ratio overflows. -/
theorem solve_unboundedColumn (s : Solver Float) (valid : p.validate s.twoPhase = .ok ()) :
    ∃ r, s.solve p = .ok r ∧ (r.solution.status = .unbounded → ∃ last k,
      r.finalStep? = some last ∧ last.event = .finish (.unbounded k) r.solution ∧
      last.description = "unbounded: " ++ last.tableau.layout.label k ++
        " can increase without limit, no row has a positive entry in column " ++ toString (k + 1) ∧
      k < last.tableau.layout.width ∧ last.tableau.objective.entry k < 0 ∧
      ∀ row ∈ last.tableau.rows, 0 < row.row.entry k → row.row.rhs.isFinite = true →
        (row.row.entry k).isFinite = true ∧
          largest * exactValue (row.row.entry k) ≤ exactValue row.row.rhs) := by
  have shaped := Tableau.shaped_ofProblem (p.wellSized_of_validate valid)
  have course := s.course_moments p (Tableau.ofProblem p)
  obtain ⟨⟨last_shaped, _⟩, _⟩ :=
    course.forall_mem (fun step => step.shaped shaped) ⟨shaped, rfl⟩
  refine ⟨_, s.solve_of_validate valid, fun status => ?_⟩
  obtain ⟨k, verdict⟩ := Verdict.eq_unbounded_of_status status
  obtain ⟨entering, none_leaves⟩ := s.trail_unbounded verdict
  refine ⟨_, k, s.finalStep?_report p _, ?_, ?_, Tableau.enteringColumn_lt last_shaped entering,
    Tableau.entry_lt_zero_of_entering entering, fun row mem => ?_⟩
  · rw [verdict]
    rfl
  · rw [verdict]
    rfl
  · exact Tableau.largest_mul_entry_le none_leaves mem

/-- A floor that takes next to nothing of the variable, and a cap far away from it. -/
def farCap : Problem Float :=
  { names := ["x1"]
    objective := ⟨[1], .maximize⟩
    constraints := [⟨"floor", [1e300], .ge, 1⟩, ⟨"cap", [1], .le, 1e20⟩] }

theorem validate_farCap : farCap.validate true = .ok () :=
  Problem.validate_of_isOk (by decide +kernel)

/-- The run ends with a positive entry of the cap in the column that it names. -/
theorem finalStep_farCap {r : Report Float}
    (solved : { Solver.default with twoPhase := true }.solve farCap = .ok r) :
    r.solution.status = .unbounded ∧ ∃ last row, r.finalStep? = some last ∧
      last.event.unboundedColumn? = some 1 ∧ last.tableau.rows[1]? = some row ∧
      0 < row.row.entry 1 ∧ row.row.rhs.isFinite = true := by
  refine ⟨status_of_solve solved (by decide +kernel), ?_⟩
  have ending := eq_of_solve (x := some (some 1, some (true, true))) (·.finalStep?.map fun x =>
    (x.event.unboundedColumn?, x.tableau.rows[1]?.map fun q =>
      (decide (0 < q.row.entry 1), q.row.rhs.isFinite))) solved (by decide +kernel)
  obtain ⟨last, is_last, found⟩ := Option.map_eq_some_iff.mp ending
  obtain ⟨column, cap⟩ := Prod.mk.inj found
  obtain ⟨row, at_one, found⟩ := Option.map_eq_some_iff.mp cap
  obtain ⟨positive, number⟩ := Prod.mk.inj found
  exact ⟨last, row, is_last, column, at_one, of_decide_eq_true positive, number⟩

/-- The ratio of the cap overflows. -/
theorem solve_unboundedColumn_farCap :
    ∃ r last row, { Solver.default with twoPhase := true }.solve farCap = .ok r ∧
      r.solution.status = .unbounded ∧ r.finalStep? = some last ∧
      last.tableau.objective.entry 1 < 0 ∧ last.tableau.rows[1]? = some row ∧
      0 < row.row.entry 1 ∧ largest * exactValue (row.row.entry 1) ≤ exactValue row.row.rhs := by
  obtain ⟨r, solved, spec⟩ :=
    solve_unboundedColumn { Solver.default with twoPhase := true } validate_farCap
  obtain ⟨unbounded, last, row, is_last, column, at_one, positive, number⟩ :=
    finalStep_farCap solved
  obtain ⟨last', k, is_last', event, _, _, negative, rows⟩ := spec unbounded
  cases is_last.symm.trans is_last'
  rw [event] at column
  cases column
  obtain ⟨_, overflow⟩ := rows row (List.mem_of_getElem? at_one) positive number
  exact ⟨r, last, row, solved, unbounded, is_last, negative, at_one, positive, overflow⟩

/-- The cap has a positive entry in the column that the sentence names. -/
theorem solve_unbounded_farCap :
    farCap.validate true = .ok () ∧
    ∃ r last row, { Solver.default with twoPhase := true }.solve farCap = .ok r ∧
      r.solution.status = .unbounded ∧ r.finalStep? = some last ∧
      last.description =
        "unbounded: s1 can increase without limit, no row has a positive entry in column 2" ∧
      last.tableau.rows[1]? = some row ∧ 0 < row.row.entry 1 := by
  have solved := solve_of_validate { Solver.default with twoPhase := true } validate_farCap
  obtain ⟨unbounded, last, row, is_last, _, at_one, positive, _⟩ := finalStep_farCap solved
  have description := eq_of_solve (x := some
    "unbounded: s1 can increase without limit, no row has a positive entry in column 2")
    (·.finalStep?.map Step.description) solved (by decide +kernel)
  rw [is_last] at description
  exact ⟨validate_farCap, _, last, row, solved, unbounded, is_last, Option.some.inj description,
    at_one, positive⟩

end Solver

end LinearProgram

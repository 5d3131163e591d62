import LinearProgram.Proofs.Canonical
import LinearProgram.Proofs.Choice

/-!
# What a pivot keeps

A pivot on an entry that is not zero keeps a tableau canonical and equivalent to
itself.  It keeps the right-hand sides of the constraint rows from becoming
negative for one of two reasons: the row was chosen by the ratio rule, or its
own right-hand side was zero, so that no right-hand side moves at all.
-/

namespace LinearProgram

namespace BasicRow

/-- A row divided by its entry in a column, so that it can be solved for that column. -/
def solvedFor (r : BasicRow Rat) (c : Nat) : Row Rat := r.row.divide (r.row.entry c)

variable (r : BasicRow Rat) (c : Nat)

@[simp] theorem length_solvedFor : (r.solvedFor c).cells.length = r.row.cells.length :=
  Row.length_divide _ _

@[simp] theorem entry_solvedFor (j : Nat) :
    (r.solvedFor c).entry j = r.row.entry j / r.row.entry c :=
  Row.entry_divide _ _ _

@[simp] theorem mark_solvedFor : (r.solvedFor c).mark = r.row.mark / r.row.entry c := rfl

@[simp] theorem rhs_solvedFor : (r.solvedFor c).rhs = r.row.rhs / r.row.entry c := rfl

theorem gap_solvedFor : (r.solvedFor c).gap = (r.row.entry c)⁻¹ • r.row.gap :=
  Row.gap_divide _ _

end BasicRow

namespace Tableau

/-- A canonical tableau whose basic point is not negative anywhere. -/
structure IsVertex (t : Tableau Rat) : Prop where
  canonical : t.Canonical
  feasible : t.Feasible

theorem IsVertex.solved {t : Tableau Rat} (vertex : t.IsVertex) : t.Solved :=
  vertex.canonical.solved

theorem IsVertex.point_nonneg {t : Tableau Rat} (vertex : t.IsVertex) (c : Nat) :
    0 ≤ t.point c :=
  vertex.feasible.point_nonneg vertex.solved c

/-- Rows at different positions do not mention each other's basic variable. -/
theorem Solved.apart_of_ne {t : Tableau Rat} (solved : t.Solved) {i k : Nat}
    {r s : BasicRow Rat} (at_i : t.rows[i]? = some r) (at_k : t.rows[k]? = some s)
    (ne : i ≠ k) : r.Apart s := by
  obtain ⟨i_lt, rfl⟩ := List.getElem?_eq_some_iff.mp at_i
  obtain ⟨k_lt, rfl⟩ := List.getElem?_eq_some_iff.mp at_k
  rcases Nat.lt_or_gt_of_ne ne with before | after
  · exact List.pairwise_iff_getElem.mp solved.apart i k i_lt k_lt before
  · exact symm (List.pairwise_iff_getElem.mp solved.apart k i k_lt i_lt after)

/-- All rows are equally long, also the divided one. -/
theorem Solved.length_eq_solvedFor {t : Tableau Rat} (solved : t.Solved) {q r : BasicRow Rat}
    (q_mem : q ∈ t.rows) (r_mem : r ∈ t.rows) (c : Nat) :
    q.row.cells.length = (r.solvedFor c).cells.length := by
  rw [r.length_solvedFor, solved.width q q_mem, solved.width r r_mem]

theorem Canonical.length_objective_eq_solvedFor {t : Tableau Rat} (canonical : t.Canonical)
    {r : BasicRow Rat} (mem : r ∈ t.rows) (c : Nat) :
    t.objective.cells.length = (r.solvedFor c).cells.length := by
  rw [r.length_solvedFor, canonical.objective_width, canonical.solved.width r mem]

section Rows

variable {t : Tableau Rat} {i c k : Nat} {r s : BasicRow Rat}

theorem pivot_objective (at_i : t.rows[i]? = some r) (c : Nat) :
    (t.pivot i c).objective = t.objective.eliminate c (r.solvedFor c) := by
  unfold pivot
  rw [at_i]
  rfl

/-- The rows of a pivoted tableau, by position. -/
theorem getElem?_pivot (at_i : t.rows[i]? = some r) (c k : Nat) :
    (t.pivot i c).rows[k]? = t.rows[k]?.map fun s =>
      if k = i then ⟨c, r.solvedFor c⟩
      else ⟨s.basic, s.row.eliminate c (r.solvedFor c)⟩ := by
  unfold pivot
  rw [at_i, List.getElem?_mapIdx]
  rfl

theorem getElem?_pivot_self (at_i : t.rows[i]? = some r) (c : Nat) :
    (t.pivot i c).rows[i]? = some ⟨c, r.solvedFor c⟩ := by
  rw [getElem?_pivot at_i, at_i, Option.map_some, if_pos rfl]

theorem getElem?_pivot_of_ne (at_i : t.rows[i]? = some r) (at_k : t.rows[k]? = some s)
    (ne : k ≠ i) (c : Nat) :
    (t.pivot i c).rows[k]? =
      some ⟨s.basic, s.row.eliminate c (r.solvedFor c)⟩ := by
  rw [getElem?_pivot at_i, at_k, Option.map_some, if_neg ne]

/-- A row of a pivoted tableau is the solved row, or another row cleared with its help. -/
theorem pivot_row_cases (at_i : t.rows[i]? = some r)
    (at_k : (t.pivot i c).rows[k]? = some s) :
    k = i ∧ s = ⟨c, r.solvedFor c⟩ ∨
    k ≠ i ∧ ∃ q, t.rows[k]? = some q ∧
      s = ⟨q.basic, q.row.eliminate c (r.solvedFor c)⟩ := by
  rw [getElem?_pivot at_i, Option.map_eq_some_iff] at at_k
  obtain ⟨q, q_at, rfl⟩ := at_k
  by_cases same : k = i
  · exact Or.inl ⟨same, if_pos same⟩
  · exact Or.inr ⟨same, q, q_at, if_neg same⟩

end Rows

/-! ## The canonical form -/

section Canonical

variable {t : Tableau Rat} {i c : Nat} {r : BasicRow Rat}

/-- Once its row is divided by its own entry, the entering column has a one there. -/
theorem entry_solvedFor_self (nonzero : r.row.entry c ≠ 0) : (r.solvedFor c).entry c = 1 := by
  rw [BasicRow.entry_solvedFor, div_self nonzero]

/-- Clearing a column with the divided row leaves a zero there. -/
theorem entry_eliminate_self {q : Row Rat} (nonzero : r.row.entry c ≠ 0)
    (width : q.cells.length = (r.solvedFor c).cells.length) :
    (q.eliminate c (r.solvedFor c)).entry c = 0 := by
  rw [Row.entry_eliminate width, entry_solvedFor_self nonzero, mul_one, sub_self]

/-- Clearing a column leaves the columns alone in which the pivot row is zero. -/
theorem entry_eliminate_of_zero {q : Row Rat} {j : Nat} (zero : r.row.entry j = 0)
    (width : q.cells.length = (r.solvedFor c).cells.length) :
    (q.eliminate c (r.solvedFor c)).entry j = q.entry j := by
  rw [Row.entry_eliminate width, r.entry_solvedFor, zero, zero_div, mul_zero, sub_zero]

/-- After a pivot, too, no row mentions another row's basic variable. -/
theorem Solved.pairwise_pivot (solved : t.Solved) (at_i : t.rows[i]? = some r)
    (nonzero : r.row.entry c ≠ 0) : (t.pivot i c).rows.Pairwise BasicRow.Apart := by
  have width : ∀ {k : Nat} {q : BasicRow Rat}, t.rows[k]? = some q →
      q.row.cells.length = (r.solvedFor c).cells.length := fun at_k =>
    solved.length_eq_solvedFor (List.mem_of_getElem? at_k) (List.mem_of_getElem? at_i) c
  -- The entering column is cleared in every other row, and the other basic columns are those of
  -- rows that the pivot row does not mention.
  have first : ∀ {k q}, k ≠ i → t.rows[k]? = some q →
      BasicRow.Apart ⟨c, r.solvedFor c⟩
        ⟨q.basic, q.row.eliminate c (r.solvedFor c)⟩ := by
    intro k q ne q_at
    refine ⟨?_, entry_eliminate_self nonzero (width q_at)⟩
    rw [r.entry_solvedFor, (solved.apart_of_ne at_i q_at ne.symm).1, zero_div]
  refine List.pairwise_iff_getElem.mpr fun a b a_lt b_lt before => ?_
  rcases pivot_row_cases at_i (List.getElem?_eq_getElem a_lt) with
    ⟨a_eq, row_a⟩ | ⟨a_ne, qa, qa_at, row_a⟩ <;>
  rcases pivot_row_cases at_i (List.getElem?_eq_getElem b_lt) with
    ⟨b_eq, row_b⟩ | ⟨b_ne, qb, qb_at, row_b⟩
  · omega
  · rw [row_a, row_b]
    exact first b_ne qb_at
  · rw [row_a, row_b]
    exact symm (first a_ne qa_at)
  · rw [row_a, row_b]
    have zero_a := (solved.apart_of_ne at_i qa_at a_ne.symm).1
    have zero_b := (solved.apart_of_ne at_i qb_at b_ne.symm).1
    have apart := solved.apart_of_ne qa_at qb_at (Nat.ne_of_lt before)
    exact ⟨(entry_eliminate_of_zero zero_b (width qa_at)).trans apart.1,
      (entry_eliminate_of_zero zero_a (width qb_at)).trans apart.2⟩

theorem Solved.pivot (solved : t.Solved) (at_i : t.rows[i]? = some r)
    (nonzero : r.row.entry c ≠ 0) (inside : c < t.layout.width) : (t.pivot i c).Solved := by
  have r_mem := List.mem_of_getElem? at_i
  have width : ∀ {k : Nat} {q : BasicRow Rat}, t.rows[k]? = some q →
      q.row.cells.length = (r.solvedFor c).cells.length :=
    fun at_k => solved.length_eq_solvedFor (List.mem_of_getElem? at_k) r_mem c
  refine ⟨?width, ?inside, ?mark, ?unit, solved.pairwise_pivot at_i nonzero⟩
  case width =>
    intro s mem
    obtain ⟨k, at_k⟩ := List.mem_iff_getElem?.mp mem
    rw [pivot_layout]
    rcases pivot_row_cases at_i at_k with ⟨_, rfl⟩ | ⟨_, q, q_at, rfl⟩
    · exact (r.length_solvedFor c).trans (solved.width r r_mem)
    · exact (Row.length_eliminate (width q_at) c).trans
        (solved.width q (List.mem_of_getElem? q_at))
  case inside =>
    intro s mem
    obtain ⟨k, at_k⟩ := List.mem_iff_getElem?.mp mem
    rw [pivot_layout]
    rcases pivot_row_cases at_i at_k with ⟨_, rfl⟩ | ⟨_, q, q_at, rfl⟩
    · exact inside
    · exact solved.inside q (List.mem_of_getElem? q_at)
  case mark =>
    intro s mem
    obtain ⟨k, at_k⟩ := List.mem_iff_getElem?.mp mem
    have mark : (r.solvedFor c).mark = 0 := by
      rw [r.mark_solvedFor, solved.mark r r_mem, zero_div]
    rcases pivot_row_cases at_i at_k with ⟨_, rfl⟩ | ⟨_, q, q_at, rfl⟩
    · exact mark
    · rw [Row.mark_eliminate (width q_at), mark,
        solved.mark q (List.mem_of_getElem? q_at), mul_zero, sub_zero]
  case unit =>
    intro s mem
    obtain ⟨k, at_k⟩ := List.mem_iff_getElem?.mp mem
    rcases pivot_row_cases at_i at_k with ⟨_, rfl⟩ | ⟨ne, q, q_at, rfl⟩
    · exact entry_solvedFor_self nonzero
    · have zero := (solved.apart_of_ne at_i q_at ne.symm).1
      rw [entry_eliminate_of_zero zero (width q_at)]
      exact solved.unit q (List.mem_of_getElem? q_at)

theorem Canonical.pivot (canonical : t.Canonical) (at_i : t.rows[i]? = some r)
    (nonzero : r.row.entry c ≠ 0) (inside : c < t.layout.width) : (t.pivot i c).Canonical := by
  have solved := canonical.solved
  have r_mem := List.mem_of_getElem? at_i
  have width := canonical.length_objective_eq_solvedFor r_mem c
  refine ⟨solved.pivot at_i nonzero inside, ?_, ?_, ?_⟩
  · rw [pivot_objective at_i, pivot_layout, Row.length_eliminate width]
    exact canonical.objective_width
  · rw [pivot_objective at_i, Row.mark_eliminate width, r.mark_solvedFor,
      solved.mark r r_mem, zero_div, mul_zero, sub_zero]
    exact canonical.objective_mark
  · intro s mem
    obtain ⟨k, at_k⟩ := List.mem_iff_getElem?.mp mem
    rw [pivot_objective at_i]
    rcases pivot_row_cases at_i at_k with ⟨_, rfl⟩ | ⟨ne, q, q_at, rfl⟩
    · exact entry_eliminate_self nonzero width
    · have zero := (solved.apart_of_ne at_i q_at ne.symm).1
      rw [entry_eliminate_of_zero zero width]
      exact canonical.priced q (List.mem_of_getElem? q_at)

end Canonical

/-! ## The equations -/

section Equations

variable {t : Tableau Rat} {i c : Nat} {r : BasicRow Rat}

/-- Each row of the pivoted tableau is a combination of rows of the tableau and the other way
round, because the pivot entry is not zero. -/
theorem rowSpace_pivot (solved : t.Solved) (at_i : t.rows[i]? = some r)
    (nonzero : r.row.entry c ≠ 0) : (t.pivot i c).rowSpace = t.rowSpace := by
  have r_mem := List.mem_of_getElem? at_i
  have width : ∀ q ∈ t.rows, q.row.cells.length = (r.solvedFor c).cells.length :=
    fun q mem => solved.length_eq_solvedFor mem r_mem c
  apply le_antisymm
  · refine rowSpace_le fun s mem => ?_
    obtain ⟨k, at_k⟩ := List.mem_iff_getElem?.mp mem
    have solved_mem : (r.solvedFor c).gap ∈ t.rowSpace := by
      rw [r.gap_solvedFor]
      exact Submodule.smul_mem _ _ (gap_mem_rowSpace r_mem)
    rcases pivot_row_cases at_i at_k with ⟨_, rfl⟩ | ⟨_, q, q_at, rfl⟩
    · exact solved_mem
    · have q_mem := List.mem_of_getElem? q_at
      rw [Row.gap_eliminate (width q q_mem)]
      exact sub_mem (gap_mem_rowSpace q_mem) (Submodule.smul_mem _ _ solved_mem)
  · refine rowSpace_le fun q mem => ?_
    obtain ⟨k, at_k⟩ := List.mem_iff_getElem?.mp mem
    have solved_mem : (r.solvedFor c).gap ∈ (t.pivot i c).rowSpace :=
      gap_mem_rowSpace (List.mem_of_getElem? (getElem?_pivot_self at_i c))
    by_cases same : k = i
    · subst same
      have eq : q = r := Option.some.inj (at_k.symm.trans at_i)
      have back : q.row.gap = r.row.entry c • (r.solvedFor c).gap := by
        rw [r.gap_solvedFor, smul_smul, mul_inv_cancel₀ nonzero, one_smul, eq]
      rw [back]
      exact Submodule.smul_mem _ _ solved_mem
    · have cleared_mem := gap_mem_rowSpace
        (List.mem_of_getElem? (getElem?_pivot_of_ne at_i at_k same c))
      rw [Row.gap_eliminate (width q mem)] at cleared_mem
      have back := add_mem cleared_mem (Submodule.smul_mem _ (q.row.entry c) solved_mem)
      rwa [sub_add_cancel] at back

theorem Canonical.equivalent_pivot (canonical : t.Canonical) (at_i : t.rows[i]? = some r)
    (nonzero : r.row.entry c ≠ 0) : t.Equivalent (t.pivot i c) := by
  have r_mem := List.mem_of_getElem? at_i
  refine ⟨pivot_layout t i c, rowSpace_pivot canonical.solved at_i nonzero, ?_⟩
  have width := canonical.length_objective_eq_solvedFor r_mem c
  rw [pivot_objective at_i, Row.gap_eliminate width, r.gap_solvedFor, sub_sub_cancel_left]
  exact neg_mem (Submodule.smul_mem _ _ (Submodule.smul_mem _ _ (gap_mem_rowSpace r_mem)))

end Equations

/-! ## The right-hand sides -/

section RightHandSides

variable {t : Tableau Rat} {i c : Nat} {r : BasicRow Rat}

/-- A pivot keeps the right-hand sides from becoming negative if the pivot row's ratio is not
negative and exceeds no other row's. -/
theorem Feasible.pivot_of_ratio (solved : t.Solved) (at_i : t.rows[i]? = some r)
    (ratio : 0 ≤ r.row.rhs / r.row.entry c)
    (others : ∀ s ∈ t.rows, 0 ≤ s.row.rhs - s.row.entry c * (r.row.rhs / r.row.entry c)) :
    (t.pivot i c).Feasible := by
  intro s mem
  obtain ⟨k, at_k⟩ := List.mem_iff_getElem?.mp mem
  rcases pivot_row_cases at_i at_k with ⟨_, rfl⟩ | ⟨_, q, q_at, rfl⟩
  · exact ratio
  · have q_mem := List.mem_of_getElem? q_at
    have width := solved.length_eq_solvedFor q_mem (List.mem_of_getElem? at_i) c
    rw [Row.rhs_eliminate width, r.rhs_solvedFor]
    exact others q q_mem

theorem Feasible.pivot_leavingRow (feasible : t.Feasible) (solved : t.Solved)
    (chosen : t.leavingRow c = some i) : (t.pivot i c).Feasible := by
  obtain ⟨r, at_i, positive, minimal, _⟩ := leavingRow_eq_some_iff.mp chosen
  have ratio : 0 ≤ r.row.rhs / r.row.entry c :=
    div_nonneg (feasible r (List.mem_of_getElem? at_i)) positive.le
  refine Feasible.pivot_of_ratio solved at_i ratio fun s mem => ?_
  rcases le_or_gt (s.row.entry c) 0 with nonpositive | s_positive
  · have product := mul_nonpos_of_nonpos_of_nonneg nonpositive ratio
    linarith [feasible s mem]
  · have bound := (le_div_iff₀ s_positive).mp (minimal s mem s_positive)
    linarith [mul_comm (s.row.entry c) (r.row.rhs / r.row.entry c)]

/-- One step of the loop leads from a vertex to an equivalent one. -/
theorem IsVertex.pivot (vertex : t.IsVertex) (inside : c < t.layout.width)
    (chosen : t.leavingRow c = some i) :
    (t.pivot i c).IsVertex ∧ t.Equivalent (t.pivot i c) := by
  obtain ⟨r, at_i, positive, _⟩ := leavingRow_eq_some_iff.mp chosen
  have nonzero : r.row.entry c ≠ 0 := positive.ne'
  exact ⟨⟨vertex.canonical.pivot at_i nonzero inside,
    vertex.feasible.pivot_leavingRow vertex.solved chosen⟩,
    vertex.canonical.equivalent_pivot at_i nonzero⟩

/-- In a row whose right-hand side is zero, any entry will do. -/
theorem IsVertex.pivot_of_rhs_eq_zero (vertex : t.IsVertex) (at_i : t.rows[i]? = some r)
    (zero : r.row.rhs = 0) (nonzero : r.row.entry c ≠ 0) (inside : c < t.layout.width) :
    (t.pivot i c).IsVertex ∧ t.Equivalent (t.pivot i c) := by
  refine ⟨⟨vertex.canonical.pivot at_i nonzero inside, ?_⟩,
    vertex.canonical.equivalent_pivot at_i nonzero⟩
  refine Feasible.pivot_of_ratio vertex.solved at_i ?_ fun s mem => ?_
  · rw [zero, zero_div]
  · rw [zero, zero_div, mul_zero, sub_zero]
    exact vertex.feasible s mem

end RightHandSides

end Tableau

end LinearProgram

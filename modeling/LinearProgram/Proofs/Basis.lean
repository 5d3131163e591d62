import LinearProgram.Proofs.ObjectiveRow

/-!
# A basis determines its tableau

The rows of a solved tableau can be rewritten in many ways that span the same
space, but only in one way for the same basic columns: in a combination of rows,
each of them counts as much as the combination has in that row's basic column.
So a run that only rewrites its tableau and comes back to its basic columns has
come back to the tableau.
-/

namespace LinearProgram

theorem Row.eq_of_entry_eq {r s : Row Rat} (width : r.cells.length = s.cells.length)
    (entries : ∀ c, r.entry c = s.entry c) (mark : r.mark = s.mark) (rhs : r.rhs = s.rhs) :
    r = s := by
  have cells : r.cells = s.cells := by
    refine List.ext_getElem width fun c left right => ?_
    have at_c := entries c
    unfold entry at at_c
    rwa [List.getD_eq_getElem _ _ left, List.getD_eq_getElem _ _ right] at at_c
  cases r
  cases s
  simp_all

theorem BasicRow.eq_of_row_eq {r s : BasicRow Rat} (basic : r.basic = s.basic)
    (row : r.row = s.row) : r = s := by
  cases r
  cases s
  simp_all

namespace Tableau

variable {t u : Tableau Rat}

/-- The basic columns, from the first row to the last. -/
def basis (t : Tableau Rat) : List Nat := t.rows.map BasicRow.basic

/-- Rows that differ by a combination of constraint rows are equal if they agree in the basic
columns. -/
theorem Solved.eq_of_entry_basic (solved : t.Solved) {o q : Row Rat}
    (width : o.cells.length = q.cells.length) (mark : o.mark = q.mark)
    (differ : o.gap - q.gap ∈ t.rowSpace)
    (entries : ∀ r ∈ t.rows, o.entry r.basic = q.entry r.basic) : o = q := by
  obtain ⟨factors, entry, -, rhs⟩ := solved.derives mark differ
  have zero : ∀ i, factors i = 0 := by
    intro i
    have mem : t.rows[i] ∈ t.rows := List.getElem_mem i.isLt
    have only : ∑ j, factors j * t.rows[j].row.entry t.rows[i].basic = factors i := by
      rw [Finset.sum_eq_single i (fun j _ ne => ?_) (by simp), solved.unit _ mem, mul_one]
      have apart := solved.apart_of_ne (List.getElem?_eq_getElem j.isLt)
        (List.getElem?_eq_getElem i.isLt) (Fin.val_ne_of_ne ne)
      exact mul_eq_zero_of_right _ apart.1
    have at_basic := entry t.rows[i].basic
    rw [only, entries _ mem] at at_basic
    exact left_eq_add.mp at_basic
  refine Row.eq_of_entry_eq width (fun c => ?_) mark ?_
  · rw [entry c]
    simp [zero]
  · rw [rhs]
    simp [zero]

section SameBasis

variable (same : t.Equivalent u) (basics : ∀ q ∈ t.rows, ∃ s ∈ u.rows, s.basic = q.basic)

include same basics

theorem Solved.row_eq (solved : t.Solved) (other : u.Solved) {r s : BasicRow Rat}
    (r_mem : r ∈ t.rows) (s_mem : s ∈ u.rows) (basic : s.basic = r.basic) : s.row = r.row := by
  refine solved.eq_of_entry_basic ?_ ?_ ?_ fun q q_mem => ?_
  · rw [other.width s s_mem, solved.width r r_mem, same.layout]
  · rw [other.mark s s_mem, solved.mark r r_mem]
  · exact sub_mem (same.rowSpace ▸ gap_mem_rowSpace s_mem) (gap_mem_rowSpace r_mem)
  · obtain ⟨q', q'_mem, q_basic⟩ := basics q q_mem
    by_cases own : r = q
    · rw [← own, solved.unit r r_mem, ← basic, other.unit s s_mem]
    · rw [solved.entry_of_ne r_mem q_mem own, ← q_basic]
      refine other.entry_of_ne s_mem q'_mem ?_
      rintro rfl
      exact own (solved.eq_of_basic_eq r_mem q_mem (basic.symm.trans q_basic))

theorem Canonical.objective_eq (canonical : t.Canonical) (other : u.Canonical) :
    u.objective = t.objective := by
  refine canonical.solved.eq_of_entry_basic ?_ ?_ same.objective fun q q_mem => ?_
  · rw [other.objective_width, canonical.objective_width, same.layout]
  · rw [other.objective_mark, canonical.objective_mark]
  · obtain ⟨q', q'_mem, q_basic⟩ := basics q q_mem
    rw [canonical.priced q q_mem, ← q_basic, other.priced q' q'_mem]

end SameBasis

theorem Equivalent.symm (same : t.Equivalent u) : u.Equivalent t := by
  refine ⟨same.layout.symm, same.rowSpace.symm, ?_⟩
  rw [same.rowSpace, ← neg_sub]
  exact neg_mem same.objective

/-- Equivalent tableaux with the same basic columns in the same rows are one tableau. -/
theorem Canonical.eq_of_basis_eq (canonical : t.Canonical) (other : u.Canonical)
    (same : t.Equivalent u) (basis : u.basis = t.basis) : u = t := by
  have length : u.rows.length = t.rows.length := by
    simpa [Tableau.basis] using congrArg List.length basis
  have basic : ∀ k (left : k < u.rows.length) (right : k < t.rows.length),
      u.rows[k].basic = t.rows[k].basic := by
    intro k left right
    simpa [Tableau.basis, left, right] using congrArg (·[k]?) basis
  have basics : ∀ q ∈ t.rows, ∃ s ∈ u.rows, s.basic = q.basic := by
    intro q mem
    obtain ⟨k, k_lt, rfl⟩ := List.mem_iff_getElem.mp mem
    exact ⟨_, List.getElem_mem (length ▸ k_lt), basic k (length ▸ k_lt) k_lt⟩
  have rows : u.rows = t.rows := by
    refine List.ext_getElem length fun k left right => ?_
    exact BasicRow.eq_of_row_eq (basic k left right) (canonical.solved.row_eq same basics
      other.solved (List.getElem_mem right) (List.getElem_mem left) (basic k left right))
  have objective := canonical.objective_eq same basics other
  have layout := same.layout
  cases t
  cases u
  simp_all

end Tableau

end LinearProgram

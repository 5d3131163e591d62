import LinearProgram.Proofs.Pivot

/-!
# Exchanging the objective row

A new objective row is cleared in the basic columns one row after the other.
Because no row mentions another row's basic variable, a column that has been
cleared stays clear, and the result is canonical.  Only multiples of equations
have been taken away, so where the equations hold the new row still gives the
value that it was loaded with.
-/

namespace LinearProgram

namespace Row

/-- An objective row after the basic columns of some rows have been cleared, the first row first. -/
def clearBasics (objective : Row Rat) (rows : List (BasicRow Rat)) : Row Rat :=
  rows.foldl (fun o r => o.eliminate r.basic r.row) objective

theorem clearBasics_cons (o : Row Rat) (r : BasicRow Rat) (rows : List (BasicRow Rat)) :
    o.clearBasics (r :: rows) = (o.eliminate r.basic r.row).clearBasics rows := rfl

theorem clearBasics_append (o : Row Rat) (before after : List (BasicRow Rat)) :
    o.clearBasics (before ++ after) = (o.clearBasics before).clearBasics after :=
  List.foldl_append

variable {rows : List (BasicRow Rat)} {o : Row Rat}

theorem length_clearBasics (width : ∀ r ∈ rows, r.row.cells.length = o.cells.length) :
    (o.clearBasics rows).cells.length = o.cells.length := by
  induction rows generalizing o with
  | nil => rfl
  | cons r rows ih =>
    have first := length_eliminate (width r List.mem_cons_self).symm r.basic
    rw [clearBasics_cons, ih fun s mem => ?_, first]
    rw [first]
    exact width s (List.mem_cons_of_mem r mem)

theorem mark_clearBasics (width : ∀ r ∈ rows, r.row.cells.length = o.cells.length)
    (mark : ∀ r ∈ rows, r.row.mark = 0) : (o.clearBasics rows).mark = o.mark := by
  induction rows generalizing o with
  | nil => rfl
  | cons r rows ih =>
    have r_width := (width r List.mem_cons_self).symm
    rw [clearBasics_cons, ih (fun s mem => ?_) fun s mem => mark s (List.mem_cons_of_mem r mem),
      mark_eliminate r_width, mark r List.mem_cons_self, mul_zero, sub_zero]
    rw [length_eliminate r_width]
    exact width s (List.mem_cons_of_mem r mem)

/-- A column in which none of the rows has an entry is left alone. -/
theorem entry_clearBasics_of_zero (width : ∀ r ∈ rows, r.row.cells.length = o.cells.length)
    {c : Nat} (zero : ∀ r ∈ rows, r.row.entry c = 0) :
    (o.clearBasics rows).entry c = o.entry c := by
  induction rows generalizing o with
  | nil => rfl
  | cons r rows ih =>
    have r_width := (width r List.mem_cons_self).symm
    rw [clearBasics_cons, ih (fun s mem => ?_) fun s mem => zero s (List.mem_cons_of_mem r mem),
      entry_eliminate r_width, zero r List.mem_cons_self, mul_zero, sub_zero]
    rw [length_eliminate r_width]
    exact width s (List.mem_cons_of_mem r mem)

/-- Clearing takes away a combination of the rows. -/
theorem gap_clearBasics (width : ∀ r ∈ rows, r.row.cells.length = o.cells.length)
    {space : Submodule Rat (Point → Rat)} (gaps : ∀ r ∈ rows, r.row.gap ∈ space) :
    (o.clearBasics rows).gap - o.gap ∈ space := by
  induction rows generalizing o with
  | nil =>
    have same : o.clearBasics [] = o := rfl
    rw [same, sub_self]
    exact zero_mem _
  | cons r rows ih =>
    have r_width := (width r List.mem_cons_self).symm
    have rest := ih (o := o.eliminate r.basic r.row)
      (fun s mem => (width s (List.mem_cons_of_mem r mem)).trans
        (length_eliminate r_width r.basic).symm)
      fun s mem => gaps s (List.mem_cons_of_mem r mem)
    have taken := Submodule.smul_mem space (o.entry r.basic) (gaps r List.mem_cons_self)
    have both := sub_mem rest taken
    rw [gap_eliminate r_width, sub_sub, sub_add_cancel] at both
    exact both

end Row

namespace Tableau

variable {t : Tableau Rat} {costs : List Rat}

theorem loadObjective_objective (t : Tableau Rat) (costs : List Rat) :
    (t.loadObjective costs).objective = Row.clearBasics ⟨costs, 1, 0⟩ t.rows := rfl

theorem Solved.canonical_loadObjective (solved : t.Solved)
    (width : costs.length = t.layout.width) : (t.loadObjective costs).Canonical := by
  have row_width : ∀ r ∈ t.rows, r.row.cells.length = (Row.mk costs 1 0).cells.length :=
    fun r mem => (solved.width r mem).trans width.symm
  refine ⟨⟨solved.width, solved.inside, solved.mark, solved.unit, solved.apart⟩, ?_, ?_, ?_⟩
  · exact (Row.length_clearBasics row_width).trans width
  · exact Row.mark_clearBasics row_width solved.mark
  · intro r (mem : r ∈ t.rows)
    -- The rows above leave some entry, this row takes it away, and the rows below leave it so.
    obtain ⟨above, below, split⟩ := List.append_of_mem mem
    have pairs := solved.apart
    have widths := row_width
    rw [split] at pairs widths
    have apart : ∀ s ∈ below, r.Apart s := fun s s_mem =>
      List.rel_of_pairwise_cons (List.pairwise_append.mp pairs).2.1 s_mem
    have above_width : ((Row.mk costs 1 0).clearBasics above).cells.length =
        (Row.mk costs 1 0).cells.length :=
      Row.length_clearBasics fun s s_mem => widths s (List.mem_append_left _ s_mem)
    have r_width := above_width.trans (row_width r mem).symm
    have below_width : ∀ s ∈ below, s.row.cells.length =
        (((Row.mk costs 1 0).clearBasics above).eliminate r.basic r.row).cells.length := by
      intro s s_mem
      rw [Row.length_eliminate r_width, above_width]
      exact widths s (List.mem_append_right _ (List.mem_cons_of_mem r s_mem))
    rw [loadObjective_objective, split, Row.clearBasics_append, Row.clearBasics_cons,
      Row.entry_clearBasics_of_zero below_width fun s s_mem => (apart s s_mem).2,
      Row.entry_eliminate r_width, solved.unit r mem, mul_one, sub_self]

theorem IsVertex.loadObjective (vertex : t.IsVertex) (width : costs.length = t.layout.width) :
    (t.loadObjective costs).IsVertex :=
  ⟨vertex.solved.canonical_loadObjective width, vertex.feasible⟩

/-- The loaded row and the given costs differ by a combination of the equations. -/
theorem Solved.gap_loadObjective_sub_mem (solved : t.Solved)
    (width : costs.length = t.layout.width) :
    (t.loadObjective costs).objective.gap - (Row.mk costs 1 0).gap ∈ t.rowSpace := by
  rw [loadObjective_objective]
  exact Row.gap_clearBasics (fun r mem => (solved.width r mem).trans width.symm)
    fun r mem => gap_mem_rowSpace mem

/-- Where the equations hold, the loaded row gives minus the value of the costs. -/
theorem Solved.gap_loadObjective (solved : t.Solved) (width : costs.length = t.layout.width)
    {x : Point} (satisfied : t.SatisfiedBy x) :
    (t.loadObjective costs).objective.gap x = -dot costs x := by
  have zero := (satisfiedBy_iff_rowSpace t x).mp satisfied _
    (solved.gap_loadObjective_sub_mem width)
  rw [sub_eq_zero.mp zero]
  exact zero_sub _

end Tableau

end LinearProgram

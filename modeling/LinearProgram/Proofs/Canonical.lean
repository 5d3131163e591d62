import LinearProgram.Proofs.Equation

/-!
# Tableaux in canonical form

A tableau is *solved* when the column of each basic variable is a unit column,
and *canonical* when moreover the objective row is zero in these columns.  From
a canonical tableau everything is read off: its basic point satisfies the rows,
the objective row gives that point its right-hand side, and moving one variable
that is not basic away from zero moves every basic variable in proportion to
the entry of its row.
-/

namespace LinearProgram

/-- Two rows do not mention each other's basic variable. -/
def BasicRow.Apart (r s : BasicRow Rat) : Prop :=
  r.row.entry s.basic = 0 ∧ s.row.entry r.basic = 0

instance : Std.Symm BasicRow.Apart := ⟨fun _ _ apart => ⟨apart.2, apart.1⟩⟩

namespace Tableau

/-- Every row is solved for its basic variable. -/
structure Solved (t : Tableau Rat) : Prop where
  width : ∀ r ∈ t.rows, r.row.cells.length = t.layout.width
  inside : ∀ r ∈ t.rows, r.basic < t.layout.width
  mark : ∀ r ∈ t.rows, r.row.mark = 0
  unit : ∀ r ∈ t.rows, r.row.entry r.basic = 1
  apart : t.rows.Pairwise BasicRow.Apart

/-- Every row is solved for its basic variable, and the objective row does not mention these. -/
structure Canonical (t : Tableau Rat) : Prop where
  solved : t.Solved
  objective_width : t.objective.cells.length = t.layout.width
  objective_mark : t.objective.mark = 1
  priced : ∀ r ∈ t.rows, t.objective.entry r.basic = 0

/-- No right-hand side of a constraint row is negative. -/
def Feasible (t : Tableau Rat) : Prop := ∀ r ∈ t.rows, 0 ≤ r.row.rhs

/-- The basic solution: each basic variable has the right-hand side of its row, and every other
variable is zero. -/
def point (t : Tableau Rat) : Point := fun c => (t.basicLevel c).getD 0

/-- A column is not basic in any row. -/
def Nonbasic (t : Tableau Rat) (c : Nat) : Prop := ∀ r ∈ t.rows, r.basic ≠ c

theorem basic_or_nonbasic (t : Tableau Rat) (c : Nat) :
    (∃ r ∈ t.rows, r.basic = c) ∨ t.Nonbasic c := by
  by_cases basic : ∃ r ∈ t.rows, r.basic = c
  · exact Or.inl basic
  · exact Or.inr fun r mem eq => basic ⟨r, mem, eq⟩

/-! ## The basic point -/

namespace Solved

variable {t : Tableau Rat} {r s : BasicRow Rat}

theorem entry_of_ne (solved : t.Solved) (r_mem : r ∈ t.rows) (s_mem : s ∈ t.rows)
    (ne : r ≠ s) : r.row.entry s.basic = 0 :=
  (solved.apart.forall r_mem s_mem ne).1

/-- No two rows have the same basic variable. -/
theorem eq_of_basic_eq (solved : t.Solved) (r_mem : r ∈ t.rows) (s_mem : s ∈ t.rows)
    (same : r.basic = s.basic) : r = s := by
  by_contra ne
  have zero := solved.entry_of_ne r_mem s_mem ne
  rw [← same, solved.unit r r_mem] at zero
  exact one_ne_zero zero

theorem point_basic (solved : t.Solved) (mem : r ∈ t.rows) : t.point r.basic = r.row.rhs := by
  unfold point basicLevel
  cases found : t.rows.find? fun s => s.basic == r.basic with
  | none =>
    have miss := List.find?_eq_none.mp found r mem
    exact absurd (beq_self_eq_true r.basic) miss
  | some s =>
    have basic : (s.basic == r.basic) = true :=
      List.find?_some (p := fun s : BasicRow Rat => s.basic == r.basic) found
    have same : s = r :=
      solved.eq_of_basic_eq (List.mem_of_find?_eq_some found) mem (beq_iff_eq.mp basic)
    rw [same]
    rfl

end Solved

theorem point_nonbasic {t : Tableau Rat} {c : Nat} (nonbasic : t.Nonbasic c) : t.point c = 0 := by
  unfold point basicLevel
  have miss : (t.rows.find? fun s => s.basic == c) = none :=
    List.find?_eq_none.mpr fun s mem eq => nonbasic s mem (beq_iff_eq.mp eq)
  rw [miss]
  rfl

/-- A row meets the basic point in its own basic variable only. -/
theorem Solved.satisfiedBy_point {t : Tableau Rat} (solved : t.Solved) :
    t.SatisfiedBy t.point := by
  intro r mem
  have inside : r.basic < r.row.cells.length := solved.width r mem ▸ solved.inside r mem
  have others : ∀ j < r.row.cells.length, j ≠ r.basic → r.row.entry j * t.point j = 0 := by
    intro j _ ne
    rcases t.basic_or_nonbasic j with ⟨s, s_mem, rfl⟩ | nonbasic
    · have differ : r ≠ s := fun same => ne (same ▸ rfl)
      rw [solved.entry_of_ne mem s_mem differ, zero_mul]
    · rw [point_nonbasic nonbasic, mul_zero]
  calc dot r.row.cells t.point
      = r.row.entry r.basic * t.point r.basic := dot_eq_single inside others
    _ = r.row.rhs := by rw [solved.unit r mem, one_mul, solved.point_basic mem]

theorem Canonical.dot_objective_point {t : Tableau Rat} (canonical : t.Canonical) :
    dot t.objective.cells t.point = 0 := by
  have terms : ∀ j < t.objective.cells.length, t.objective.entry j * t.point j = 0 := by
    intro j _
    rcases t.basic_or_nonbasic j with ⟨r, mem, rfl⟩ | nonbasic
    · rw [canonical.priced r mem, zero_mul]
    · rw [point_nonbasic nonbasic, mul_zero]
  exact dot_eq_zero terms

/-- The right-hand side of the objective row belongs to the basic point. -/
theorem Canonical.gap_objective_point {t : Tableau Rat} (canonical : t.Canonical) :
    t.objective.gap t.point = t.objective.rhs := by
  rw [Row.gap, canonical.dot_objective_point, sub_zero]

theorem Feasible.point_nonneg {t : Tableau Rat} (feasible : t.Feasible) (solved : t.Solved)
    (c : Nat) : 0 ≤ t.point c := by
  rcases t.basic_or_nonbasic c with ⟨r, mem, rfl⟩ | nonbasic
  · rw [solved.point_basic mem]
    exact feasible r mem
  · rw [point_nonbasic nonbasic]

/-! ## Moving one variable away from zero -/

/-- The right-hand sides that remain when one variable takes a value. -/
def shift (t : Tableau Rat) (c : Nat) (amount : Rat) : Tableau Rat :=
  { t with
    rows := t.rows.map fun r =>
      { r with row := { r.row with rhs := r.row.rhs - amount * r.row.entry c } } }

/-- The basic point after one variable has been given a value. -/
def along (t : Tableau Rat) (c : Nat) (amount : Rat) : Point :=
  Function.update (t.shift c amount).point c amount

section Along

variable {t : Tableau Rat} {c : Nat}

theorem mem_shift {s : BasicRow Rat} {amount : Rat} :
    s ∈ (t.shift c amount).rows ↔ ∃ r ∈ t.rows,
      { r with row := { r.row with rhs := r.row.rhs - amount * r.row.entry c } } = s :=
  List.mem_map

/-- Right-hand sides play no part in the canonical form. -/
theorem Solved.shift (solved : t.Solved) (c : Nat) (amount : Rat) :
    (t.shift c amount).Solved where
  width := fun _ mem => by
    obtain ⟨r, r_mem, rfl⟩ := mem_shift.mp mem
    exact solved.width r r_mem
  inside := fun _ mem => by
    obtain ⟨r, r_mem, rfl⟩ := mem_shift.mp mem
    exact solved.inside r r_mem
  mark := fun _ mem => by
    obtain ⟨r, r_mem, rfl⟩ := mem_shift.mp mem
    exact solved.mark r r_mem
  unit := fun _ mem => by
    obtain ⟨r, r_mem, rfl⟩ := mem_shift.mp mem
    exact solved.unit r r_mem
  apart := List.pairwise_map.mpr solved.apart

theorem Canonical.shift (canonical : t.Canonical) (c : Nat) (amount : Rat) :
    (t.shift c amount).Canonical where
  solved := canonical.solved.shift c amount
  objective_width := canonical.objective_width
  objective_mark := canonical.objective_mark
  priced := fun _ mem => by
    obtain ⟨r, r_mem, rfl⟩ := mem_shift.mp mem
    exact canonical.priced r r_mem

theorem Nonbasic.shift (nonbasic : t.Nonbasic c) (amount : Rat) :
    (t.shift c amount).Nonbasic c := by
  intro _ mem
  obtain ⟨r, r_mem, rfl⟩ := mem_shift.mp mem
  exact nonbasic r r_mem

theorem along_basic (solved : t.Solved) (nonbasic : t.Nonbasic c) {r : BasicRow Rat}
    (mem : r ∈ t.rows) (amount : Rat) :
    t.along c amount r.basic = r.row.rhs - amount * r.row.entry c := by
  unfold along
  rw [Function.update_of_ne (nonbasic r mem)]
  exact (solved.shift c amount).point_basic (mem_shift.mpr ⟨r, mem, rfl⟩)

theorem along_nonbasic {j : Nat} (nonbasic : t.Nonbasic j) (ne : j ≠ c) (amount : Rat) :
    t.along c amount j = 0 := by
  unfold along
  rw [Function.update_of_ne ne]
  refine point_nonbasic fun _ mem => ?_
  obtain ⟨r, r_mem, rfl⟩ := mem_shift.mp mem
  exact nonbasic r r_mem

theorem Solved.satisfiedBy_along (solved : t.Solved) (nonbasic : t.Nonbasic c)
    (inside : c < t.layout.width) (amount : Rat) : t.SatisfiedBy (t.along c amount) := by
  intro r mem
  have width : c < r.row.cells.length := solved.width r mem ▸ inside
  have shifted : dot r.row.cells (t.shift c amount).point =
      r.row.rhs - amount * r.row.entry c :=
    (solved.shift c amount).satisfiedBy_point _ (mem_shift.mpr ⟨r, mem, rfl⟩)
  have moved : dot r.row.cells (t.along c amount) =
      dot r.row.cells (t.shift c amount).point +
        r.row.entry c * (amount - (t.shift c amount).point c) :=
    dot_update width _ _
  rw [moved, shifted, point_nonbasic (nonbasic.shift amount)]
  ring

/-- The objective row changes its value by its own entry for every unit of the move. -/
theorem Canonical.gap_objective_along (canonical : t.Canonical) (nonbasic : t.Nonbasic c)
    (inside : c < t.layout.width) (amount : Rat) :
    t.objective.gap (t.along c amount) = t.objective.rhs - amount * t.objective.entry c := by
  have width : c < t.objective.cells.length := canonical.objective_width ▸ inside
  have shifted : dot t.objective.cells (t.shift c amount).point = 0 :=
    (canonical.shift c amount).dot_objective_point
  have moved : dot t.objective.cells (t.along c amount) =
      dot t.objective.cells (t.shift c amount).point +
        t.objective.entry c * (amount - (t.shift c amount).point c) :=
    dot_update width _ _
  rw [Row.gap, moved, shifted, point_nonbasic (nonbasic.shift amount)]
  ring

/-- A variable whose column has no positive entry can grow without making another one negative. -/
theorem Feasible.along_nonneg (feasible : t.Feasible) (solved : t.Solved)
    (nonbasic : t.Nonbasic c) (column : ∀ r ∈ t.rows, r.row.entry c ≤ 0) {amount : Rat}
    (nonneg : 0 ≤ amount) (j : Nat) : 0 ≤ t.along c amount j := by
  rcases t.basic_or_nonbasic j with ⟨r, mem, rfl⟩ | other
  · rw [along_basic solved nonbasic mem]
    have product : amount * r.row.entry c ≤ 0 :=
      mul_nonpos_of_nonneg_of_nonpos nonneg (column r mem)
    linarith [feasible r mem]
  · by_cases same : j = c
    · subst same
      unfold along
      rw [Function.update_self]
      exact nonneg
    · rw [along_nonbasic other same]

end Along

/-- A column with an objective entry that is not zero is not basic. -/
theorem Canonical.nonbasic {t : Tableau Rat} (canonical : t.Canonical) {c : Nat}
    (entry : t.objective.entry c ≠ 0) : t.Nonbasic c := by
  rintro r mem rfl
  exact entry (canonical.priced r mem)

end Tableau

end LinearProgram

import LinearProgram.Proofs.FirstPhase

/-!
# Driving artificial variables out

A row with an artificial basic variable gives it up for a real column in which
the row has an entry above the tolerance.  At tolerance zero, and with all basic
artificial variables at zero, this moves no right-hand side and changes no
equation.  What remains is *settled*: a row that keeps its artificial variable
has no entry in any real column, and no pivot on a real column touches it again.
-/

namespace LinearProgram

namespace Layout

theorem isArtificial_iff (l : Layout) (c : Nat) :
    l.isArtificial c = true ↔ l.realCount ≤ c ∧ c < l.width := by
  unfold isArtificial
  rw [Bool.and_eq_true, decide_eq_true_iff, decide_eq_true_iff]

theorem not_isArtificial_of_lt {l : Layout} {c : Nat} (real : c < l.realCount) :
    l.isArtificial c ≠ true := fun artificial =>
  absurd ((isArtificial_iff l c).mp artificial).1 (Nat.not_le.mpr real)

theorem isArtificial_artificialColumn {l : Layout} {k : Nat} (inside : k < l.artificials) :
    l.isArtificial (l.artificialColumn k) = true :=
  (isArtificial_iff _ _).mpr ⟨Nat.le_add_right _ _, Nat.add_lt_add_left inside _⟩

theorem exists_artificialColumn {l : Layout} {c : Nat} (artificial : l.isArtificial c = true) :
    ∃ k < l.artificials, c = l.artificialColumn k := by
  obtain ⟨above, below⟩ := (isArtificial_iff l c).mp artificial
  obtain ⟨k, rfl⟩ := Nat.exists_eq_add_of_le above
  exact ⟨k, Nat.lt_of_add_lt_add_left below, rfl⟩

end Layout

namespace Tableau

variable {t : Tableau Rat} {i c : Nat} {r : BasicRow Rat}

/-! ## The choice of a column -/

/-- The search for a column sees the real entries of a row, and takes one above the tolerance. -/
theorem driveOutColumn_eq_some {tolerance : Rat} (found : t.driveOutColumn tolerance i = some c) :
    ∃ r, t.rows[i]? = some r ∧ t.layout.isArtificial r.basic = true ∧
      c < t.layout.realCount ∧ tolerance < |r.row.entry c| := by
  obtain ⟨r, at_i, artificial, real, large | large⟩ := driveOutColumn_chosen found
  · exact ⟨r, at_i, artificial, real, large.trans_le (le_abs_self _)⟩
  · exact ⟨r, at_i, artificial, real, Scalar.abs_eq (r.row.entry c) ▸ large⟩

/-- A row whose basic variable stays artificial has no real entry above the tolerance. -/
theorem driveOutColumn_eq_none {tolerance : Rat} (nonneg : 0 ≤ tolerance)
    (none_found : t.driveOutColumn tolerance i = none) (at_i : t.rows[i]? = some r)
    (artificial : t.layout.isArtificial r.basic = true) :
    ∀ j < t.layout.realCount, |r.row.entry j| ≤ tolerance := by
  intro j real
  unfold driveOutColumn at none_found
  rw [at_i] at none_found
  dsimp only at none_found
  rw [if_pos artificial] at none_found
  cases positive : (r.row.cells.take t.layout.realCount).findIdx? fun x =>
      decide (tolerance < x) with
  | some d =>
    rw [positive] at none_found
    cases none_found
  | none =>
    rw [positive] at none_found
    rcases Nat.lt_or_ge j r.row.cells.length with inside | outside
    · have mem : r.row.cells[j] ∈ r.row.cells.take t.layout.realCount := by
        refine List.mem_iff_getElem.mpr ⟨j, ?_, List.getElem_take⟩
        rw [List.length_take]
        exact Nat.lt_min.mpr ⟨real, inside⟩
      have small := of_decide_eq_false (List.findIdx?_eq_none_iff.mp none_found _ mem)
      have entry : r.row.entry j = r.row.cells[j] := List.getD_eq_getElem _ _ inside
      rw [entry, ← Scalar.abs_eq]
      exact not_lt.mp small
    · rw [Row.entry_of_le outside, abs_zero]
      exact nonneg

/-! ## Clearing a right-hand side -/

/-- Clearing a right-hand side changes one number. -/
theorem clearRhs_row_cases {k : Nat} {s : BasicRow Rat}
    (at_k : (t.clearRhs i).rows[k]? = some s) :
    ∃ q, t.rows[k]? = some q ∧ s.basic = q.basic ∧ s.row.entry = q.row.entry ∧
      s.row.cells = q.row.cells ∧ s.row.mark = q.row.mark ∧
      s.row.rhs = if i = k then 0 else q.row.rhs := by
  unfold clearRhs at at_k
  rw [List.getElem?_modify] at at_k
  obtain ⟨q, q_at, rfl⟩ := Option.map_eq_some_iff.mp at_k
  refine ⟨q, q_at, ?_⟩
  split <;> exact ⟨rfl, rfl, rfl, rfl, rfl⟩

theorem getElem?_clearRhs_self (at_i : t.rows[i]? = some r) :
    (t.clearRhs i).rows[i]? = some { r with row := { r.row with rhs := 0 } } := by
  unfold clearRhs
  rw [List.getElem?_modify_eq, at_i]
  rfl

theorem Solved.clearRhs (solved : t.Solved) (i : Nat) : (t.clearRhs i).Solved := by
  refine ⟨?width, ?inside, ?mark, ?unit, ?apart⟩
  case apart =>
    refine List.pairwise_iff_getElem.mpr fun a b a_lt b_lt before => ?_
    obtain ⟨q, q_at, q_basic, q_entry, _⟩ := clearRhs_row_cases (List.getElem?_eq_getElem a_lt)
    obtain ⟨u, u_at, u_basic, u_entry, _⟩ := clearRhs_row_cases (List.getElem?_eq_getElem b_lt)
    have apart := solved.apart_of_ne q_at u_at before.ne
    unfold BasicRow.Apart
    rw [q_basic, q_entry, u_basic, u_entry]
    exact apart
  all_goals
    intro s mem
    obtain ⟨k, at_k⟩ := List.mem_iff_getElem?.mp mem
    obtain ⟨q, q_at, basic, entry, cells, mark, _⟩ := clearRhs_row_cases at_k
    have q_mem := List.mem_of_getElem? q_at
  · rw [cells]
    exact solved.width q q_mem
  · rw [basic]
    exact solved.inside q q_mem
  · rw [mark]
    exact solved.mark q q_mem
  · rw [basic, entry]
    exact solved.unit q q_mem

theorem IsVertex.clearRhs (vertex : t.IsVertex) (i : Nat) : (t.clearRhs i).IsVertex := by
  refine ⟨⟨vertex.solved.clearRhs i, vertex.canonical.objective_width,
    vertex.canonical.objective_mark, fun s mem => ?_⟩, fun s mem => ?_⟩
  all_goals
    obtain ⟨k, at_k⟩ := List.mem_iff_getElem?.mp mem
    obtain ⟨q, q_at, basic, _, _, _, rhs⟩ := clearRhs_row_cases at_k
    have q_mem := List.mem_of_getElem? q_at
  · rw [basic]
    exact vertex.canonical.priced q q_mem
  · rw [rhs]
    split
    · exact le_rfl
    · exact vertex.feasible q q_mem

/-- Driving out leads from a vertex to a vertex, which may say something else. -/
theorem IsVertex.driveOut (vertex : t.IsVertex) {tolerance : Rat} (nonneg : 0 ≤ tolerance)
    (found : t.driveOutColumn tolerance i = some c) : ((t.clearRhs i).pivot i c).IsVertex := by
  obtain ⟨r, at_i, _, real, large⟩ := driveOutColumn_eq_some found
  have nonzero : r.row.entry c ≠ 0 := abs_pos.mp (nonneg.trans_lt large)
  exact ((vertex.clearRhs i).pivot_of_rhs_eq_zero (getElem?_clearRhs_self at_i) rfl nonzero
    (real.trans_le (Nat.le_add_right _ _))).1

/-! ## Rows with artificial basic variables -/

/-- A pivot on a real column only leaves artificial variables basic where they were before. -/
theorem pivot_row_of_artificial {k : Nat} {s : BasicRow Rat} (at_i : t.rows[i]? = some r)
    (real : c < t.layout.realCount) (at_k : (t.pivot i c).rows[k]? = some s)
    (artificial : t.layout.isArtificial s.basic = true) :
    k ≠ i ∧ ∃ q, t.rows[k]? = some q ∧
      s = ⟨q.basic, q.row.eliminate c (r.solvedFor c)⟩ := by
  rcases pivot_row_cases at_i at_k with ⟨_, rfl⟩ | other
  · exact absurd artificial (Layout.not_isArtificial_of_lt real)
  · exact other

/-- Driving out makes its column basic at zero, and leaves the basic variables and right-hand sides
of all other rows alone. -/
theorem driveOut_row_cases {k : Nat} {s : BasicRow Rat} (solved : t.Solved) {tolerance : Rat}
    (found : t.driveOutColumn tolerance i = some c)
    (at_k : ((t.clearRhs i).pivot i c).rows[k]? = some s) :
    k = i ∧ s.basic = c ∧ s.row.rhs = 0 ∨
    k ≠ i ∧ ∃ q, t.rows[k]? = some q ∧ s.basic = q.basic ∧ s.row.rhs = q.row.rhs ∧
      (q.row.entry c = 0 → s.row.entry = q.row.entry) := by
  obtain ⟨r, at_i, _⟩ := driveOutColumn_eq_some found
  have cleared := getElem?_clearRhs_self at_i
  rcases pivot_row_cases cleared at_k with ⟨here, rfl⟩ | ⟨ne, q, q_at, rfl⟩
  · exact Or.inl ⟨here, rfl, zero_div _⟩
  · obtain ⟨u, u_at, basic, entry, _, _, rhs⟩ := clearRhs_row_cases q_at
    have width := (solved.clearRhs i).length_eq_solvedFor (List.mem_of_getElem? q_at)
      (List.mem_of_getElem? cleared) c
    refine Or.inr ⟨ne, u, u_at, basic, ?_, fun zero => ?_⟩
    · rw [Row.rhs_eliminate width, BasicRow.rhs_solvedFor, rhs, if_neg ne.symm]
      simp
    · rw [← entry] at zero
      rw [Row.eliminate_of_entry_eq_zero zero, entry]

/-- So an artificial variable that is basic afterwards was basic before, and at the same level. -/
theorem driveOut_row_of_artificial {k : Nat} {s : BasicRow Rat} (solved : t.Solved)
    {tolerance : Rat} (found : t.driveOutColumn tolerance i = some c)
    (at_k : ((t.clearRhs i).pivot i c).rows[k]? = some s)
    (artificial : t.layout.isArtificial s.basic = true) :
    k ≠ i ∧ ∃ q, t.rows[k]? = some q ∧ s.basic = q.basic ∧ s.row.rhs = q.row.rhs ∧
      (q.row.entry c = 0 → s.row.entry = q.row.entry) := by
  obtain ⟨_, _, _, real, _⟩ := driveOutColumn_eq_some found
  refine (driveOut_row_cases solved found at_k).resolve_left ?_
  rintro ⟨_, basic, _⟩
  exact Layout.not_isArtificial_of_lt real (basic ▸ artificial)

/-! ## Artificial variables at zero -/

/-- Every artificial variable that is basic is zero. -/
def ArtificialsZero (t : Tableau Rat) : Prop :=
  ∀ r ∈ t.rows, t.layout.isArtificial r.basic = true → r.row.rhs = 0

/-- If the basic variable of this row is artificial, the row has no entry in a real column. -/
def Settled (t : Tableau Rat) (i : Nat) : Prop :=
  ∀ r, t.rows[i]? = some r → t.layout.isArtificial r.basic = true →
    ∀ j < t.layout.realCount, r.row.entry j = 0

/-- Past the last row there is nothing to settle. -/
theorem settled_of_le (beyond : t.constraintCount ≤ i) : t.Settled i := by
  intro r at_i
  have inside := (List.getElem?_eq_some_iff.mp at_i).1
  exact absurd inside (Nat.not_lt.mpr beyond)

/-- At tolerance zero, a row is only passed by if it is settled. -/
theorem settled_of_driveOutColumn (none_found : t.driveOutColumn 0 i = none) : t.Settled i := by
  intro r at_i artificial j real
  exact abs_nonpos_iff.mp (driveOutColumn_eq_none le_rfl none_found at_i artificial j real)

/-- Clearing a right-hand side that is zero changes nothing. -/
theorem clearRhs_eq_self (at_i : t.rows[i]? = some r) (zero : r.row.rhs = 0) :
    t.clearRhs i = t := by
  have rows : (t.rows.modify i fun r => { r with row := { r.row with rhs := 0 } }) = t.rows := by
    refine List.ext_getElem? fun k => ?_
    by_cases same : i = k
    · subst same
      rw [List.getElem?_modify_eq, at_i]
      obtain ⟨basic, cells, mark, rhs⟩ := r
      cases zero
      rfl
    · rw [List.getElem?_modify_ne _ _ same]
  unfold clearRhs
  rw [rows]

/-- A pivot in a row whose right-hand side is zero leaves artificial variables at zero. -/
theorem ArtificialsZero.pivot_of_rhs_eq_zero (artificials : t.ArtificialsZero)
    (solved : t.Solved) (at_i : t.rows[i]? = some r) (zero : r.row.rhs = 0)
    (real : c < t.layout.realCount) : (t.pivot i c).ArtificialsZero := by
  intro s mem artificial
  obtain ⟨k, at_k⟩ := List.mem_iff_getElem?.mp mem
  rw [pivot_layout] at artificial
  obtain ⟨_, q, q_at, rfl⟩ := pivot_row_of_artificial at_i real at_k artificial
  have q_mem := List.mem_of_getElem? q_at
  have width := solved.length_eq_solvedFor q_mem (List.mem_of_getElem? at_i) c
  rw [Row.rhs_eliminate width, r.rhs_solvedFor, zero, zero_div, mul_zero, sub_zero]
  exact artificials q q_mem artificial

/-- A pivot on a real column settles its own row and keeps the settled ones. -/
theorem Settled.pivot {k : Nat} (at_i : t.rows[i]? = some r) (real : c < t.layout.realCount)
    (settled : k ≠ i → t.Settled k) : (t.pivot i c).Settled k := by
  intro s at_k artificial
  rw [pivot_layout] at artificial ⊢
  obtain ⟨ne, q, q_at, rfl⟩ := pivot_row_of_artificial at_i real at_k artificial
  have entries := settled ne q q_at artificial
  rw [Row.eliminate_of_entry_eq_zero (entries c real)]
  exact entries

/-! ## All rows -/

/-- At tolerance zero, driving out keeps a vertex with artificial variables at zero, equivalent to
what it was, and settles every row that it looks at. -/
theorem driveOut_zero (rows : List Nat) (iterations : Nat) (vertex : t.IsVertex)
    (artificials : t.ArtificialsZero) :
    (t.driveOut 0 iterations rows).2.IsVertex ∧
      t.Equivalent (t.driveOut 0 iterations rows).2 ∧
      (t.driveOut 0 iterations rows).2.ArtificialsZero ∧
      ∀ k, (k ∉ rows → t.Settled k) → (t.driveOut 0 iterations rows).2.Settled k := by
  induction rows generalizing t with
  | nil => exact ⟨vertex, .refl t, artificials, fun k settled => settled List.not_mem_nil⟩
  | cons i rest ih =>
    rw [driveOut]
    split
    · next none_found =>
      obtain ⟨last_vertex, same, zero, settled⟩ := ih vertex artificials
      refine ⟨last_vertex, same, zero, fun k before => settled k fun not_rest => ?_⟩
      by_cases here : k = i
      · subst here
        exact settled_of_driveOutColumn none_found
      · exact before (List.not_mem_cons_of_ne_of_not_mem here not_rest)
    · next c found =>
      obtain ⟨r, at_i, artificial, real, large⟩ := driveOutColumn_eq_some found
      have zero_rhs := artificials r (List.mem_of_getElem? at_i) artificial
      rw [clearRhs_eq_self at_i zero_rhs]
      obtain ⟨next_vertex, step_same⟩ := vertex.pivot_of_rhs_eq_zero at_i zero_rhs
        (abs_pos.mp large) (real.trans_le (Nat.le_add_right _ _))
      obtain ⟨last_vertex, same, zero, settled⟩ := ih next_vertex
        (artificials.pivot_of_rhs_eq_zero vertex.solved at_i zero_rhs real)
      refine ⟨last_vertex, step_same.trans same, zero, fun k before => settled k fun not_rest => ?_⟩
      exact Settled.pivot at_i real fun ne =>
        before (List.not_mem_cons_of_ne_of_not_mem ne not_rest)

end Tableau

end LinearProgram

import LinearProgram.Proofs.Validation
import LinearProgram.Solver.Run

/-!
# The shape of a tableau

What holds of a tableau whatever the arithmetic does: every row has one cell for
each variable column, and the rules only choose rows and columns that exist.
Nothing here looks at a value.  Row operations work cell by cell, so they keep
the shape even where a division overflows or a comparison is undefined.
-/

namespace LinearProgram

variable {α : Type}

/-! ## The matrix of a tableau -/

theorem Layout.length_labels (l : Layout) : l.labels.length = l.columnCount := by
  simp [labels, columnCount, width, realCount, decisionCount, Nat.add_assoc]

theorem Layout.getElem?_labels {l : Layout} {c : Nat} (inside : c < l.width) :
    l.labels[c]? = some (l.label c) := by
  have bound : c < l.labels.length := by
    rw [length_labels, columnCount]
    omega
  simp [label, List.getElem?_eq_getElem bound]

theorem Row.getElem?_entries_length (r : Row α) : r.entries[r.cells.length]? = some r.mark := by
  simp [entries]

namespace Tableau

/-- The entry in a row, the objective row last, and any column, if both exist. -/
def cell? (t : Tableau α) (row column : Nat) : Option α := t.entries[row]?.bind (·[column]?)

variable {t : Tableau α} {i : Nat} {r : BasicRow α}

theorem entries_eq (t : Tableau α) :
    t.entries = t.rows.map (fun r => r.row.entries) ++ [t.objective.entries] := by
  simp [entries, allRows, Function.comp_def]

theorem getElem?_entries (at_i : t.rows[i]? = some r) : t.entries[i]? = some r.row.entries := by
  have i_lt := (List.getElem?_eq_some_iff.mp at_i).1
  rw [entries_eq, List.getElem?_append_left (by simpa using i_lt), List.getElem?_map, at_i,
    Option.map_some]

theorem getElem?_entries_objective (t : Tableau α) :
    t.entries[t.constraintCount]? = some t.objective.entries := by
  have count : t.constraintCount = (t.rows.map fun r => r.row.entries).length := by
    rw [List.length_map, constraintCount]
  rw [entries_eq, count, List.getElem?_concat_length]

theorem getElem?_basisNames (at_i : t.rows[i]? = some r) :
    t.basisNames[i]? = some (t.layout.label r.basic) := by
  have i_lt := (List.getElem?_eq_some_iff.mp at_i).1
  rw [basisNames, List.getElem?_append_left (by simpa using i_lt), List.getElem?_map, at_i,
    Option.map_some]

end Tableau

variable [Scalar α]

theorem Tableau.entry_of_getElem? {t : Tableau α} {i : Nat} {r : BasicRow α}
    (at_i : t.rows[i]? = some r) (c : Nat) : t.entry i c = r.row.entry c := by
  rw [entry, at_i]
  rfl

/-! ## Lengths -/

namespace Row

@[simp] theorem length_divide (r : Row α) (d : α) :
    (r.divide d).cells.length = r.cells.length :=
  List.length_map _

theorem length_subtract {r s : Row α} (width : r.cells.length = s.cells.length) (factor : α) :
    (r.subtract factor s).cells.length = r.cells.length := by
  simp [subtract, width]

theorem length_eliminate {r s : Row α} (width : r.cells.length = s.cells.length) (c : Nat) :
    (r.eliminate c s).cells.length = r.cells.length := by
  unfold eliminate
  split
  · rfl
  · exact length_subtract width _

theorem getElem?_cells {r : Row α} {c : Nat} (inside : c < r.cells.length) :
    r.cells[c]? = some (r.entry c) := by
  simp [entry, inside]

theorem getElem?_entries {r : Row α} {c : Nat} (inside : c < r.cells.length) :
    r.entries[c]? = some (r.entry c) := by
  unfold entries
  rw [List.getElem?_append_left inside, getElem?_cells inside]

end Row

@[simp] theorem length_zeros (count : Nat) : (zeros count : List α).length = count :=
  List.length_replicate

@[simp] theorem length_single (count position : Nat) (v : α) :
    (single count position v).length = count := by
  simp [single]

theorem Constraint.length_normalize (c : Constraint α) :
    c.normalize.coefficients.length = c.coefficients.length := by
  unfold normalize
  split <;> simp

namespace Tableau

/-- Every row has one cell for each variable column. -/
structure Shaped (t : Tableau α) : Prop where
  width : ∀ r ∈ t.rows, r.row.cells.length = t.layout.width
  objective_width : t.objective.cells.length = t.layout.width

namespace Shaped

variable {t : Tableau α} {i c : Nat} {r : BasicRow α} (shaped : t.Shaped)

include shaped

theorem cell?_row (at_i : t.rows[i]? = some r) (inside : c < t.layout.width) :
    t.cell? i c = some (r.row.entry c) := by
  rw [← shaped.width r (List.mem_of_getElem? at_i)] at inside
  rw [cell?, getElem?_entries at_i, Option.bind_some, Row.getElem?_entries inside]

theorem cell?_objective (inside : c < t.layout.width) :
    t.cell? t.constraintCount c = some (t.objective.entry c) := by
  rw [← shaped.objective_width] at inside
  rw [cell?, getElem?_entries_objective, Option.bind_some, Row.getElem?_entries inside]

omit [Scalar α] in
theorem cell?_row_mark (at_i : t.rows[i]? = some r) :
    t.cell? i t.layout.objectiveColumn = some r.row.mark := by
  have column : t.layout.objectiveColumn = r.row.cells.length :=
    (shaped.width r (List.mem_of_getElem? at_i)).symm
  rw [cell?, getElem?_entries at_i, Option.bind_some, column, Row.getElem?_entries_length]

omit [Scalar α] in
theorem cell?_objective_mark :
    t.cell? t.constraintCount t.layout.objectiveColumn = some t.objective.mark := by
  have column : t.layout.objectiveColumn = t.objective.cells.length := shaped.objective_width.symm
  rw [cell?, getElem?_entries_objective, Option.bind_some, column, Row.getElem?_entries_length]

end Shaped

@[simp] theorem pivot_layout (t : Tableau α) (i c : Nat) : (t.pivot i c).layout = t.layout := by
  unfold pivot
  split <;> rfl

@[simp] theorem clearRhs_layout (t : Tableau α) (i : Nat) : (t.clearRhs i).layout = t.layout := rfl

@[simp] theorem loadObjective_layout (t : Tableau α) (costs : List α) :
    (t.loadObjective costs).layout = t.layout := rfl

@[simp] theorem loadObjective_rows (t : Tableau α) (costs : List α) :
    (t.loadObjective costs).rows = t.rows := rfl

@[simp] theorem length_rows_pivot (t : Tableau α) (i c : Nat) :
    (t.pivot i c).rows.length = t.rows.length := by
  unfold pivot
  split <;> simp

theorem Shaped.pivot {t : Tableau α} (shaped : t.Shaped) (i c : Nat) : (t.pivot i c).Shaped := by
  unfold Tableau.pivot
  split
  · exact shaped
  · next r at_i =>
    have pivot_width : (r.row.divide (r.row.entry c)).cells.length = t.layout.width := by
      rw [Row.length_divide, shaped.width r (List.mem_of_getElem? at_i)]
    constructor
    · intro s mem
      obtain ⟨k, k_lt, rfl⟩ := List.mem_mapIdx.mp mem
      have q_width := shaped.width _ (List.getElem_mem k_lt)
      split
      · exact pivot_width
      · exact (Row.length_eliminate (q_width.trans pivot_width.symm) c).trans q_width
    · have width := shaped.objective_width.trans pivot_width.symm
      exact (Row.length_eliminate width c).trans shaped.objective_width

theorem Shaped.clearRhs {t : Tableau α} (shaped : t.Shaped) (i : Nat) : (t.clearRhs i).Shaped := by
  refine ⟨fun s mem => ?_, shaped.objective_width⟩
  obtain ⟨k, at_k⟩ := List.mem_iff_getElem?.mp mem
  rw [Tableau.clearRhs, List.getElem?_modify] at at_k
  obtain ⟨r, r_at, rfl⟩ := Option.map_eq_some_iff.mp at_k
  have width := shaped.width r (List.mem_of_getElem? r_at)
  split <;> exact width

theorem Shaped.loadObjective {t : Tableau α} (shaped : t.Shaped) {costs : List α}
    (width : costs.length = t.layout.width) : (t.loadObjective costs).Shaped := by
  refine ⟨shaped.width, ?_⟩
  -- Clearing one basic column after the other keeps the length, whatever it started from.
  have fold : ∀ (rows : List (BasicRow α)) (o : Row α), o.cells.length = t.layout.width →
      (∀ r ∈ rows, r.row.cells.length = t.layout.width) →
      (rows.foldl (fun o r => o.eliminate r.basic r.row) o).cells.length = t.layout.width := by
    intro rows
    induction rows with
    | nil => exact fun o o_width _ => o_width
    | cons r rows ih =>
      intro o o_width widths
      have r_width := widths r List.mem_cons_self
      rw [List.foldl_cons]
      apply ih
      · rw [Row.length_eliminate (o_width.trans r_width.symm), o_width]
      · exact fun s mem => widths s (List.mem_cons_of_mem r mem)
  exact fold t.rows ⟨costs, 1, 0⟩ width shaped.width

theorem length_artificialCosts (l : Layout) :
    (artificialCosts l : List α).length = l.width := by
  simp [artificialCosts, Layout.width]

/-! ## The starting tableau -/

theorem length_startRows {l : Layout} {slack artificial : Nat} {constraints : List (Constraint α)}
    (sized : ∀ c ∈ constraints, c.coefficients.length = l.decisionCount) :
    ∀ r ∈ startRows l slack artificial constraints, r.row.cells.length = l.width := by
  induction constraints generalizing slack artificial with
  | nil => simp [startRows]
  | cons c rest ih =>
    have c_sized := sized c List.mem_cons_self
    have rest_sized : ∀ d ∈ rest, d.coefficients.length = l.decisionCount :=
      fun d mem => sized d (List.mem_cons_of_mem c mem)
    rw [startRows]
    split
    all_goals
      intro r mem
      rcases List.mem_cons.mp mem with rfl | later
      · simp [c_sized, Layout.width, Layout.realCount, Nat.add_assoc]
      · exact ih rest_sized r later

theorem length_rows_ofProblem (p : Problem α) :
    (ofProblem p).rows.length = p.constraints.length := by
  have length : ∀ (l : Layout) (slack artificial : Nat) (cs : List (Constraint α)),
      (startRows l slack artificial cs).length = cs.length := by
    intro l slack artificial cs
    induction cs generalizing slack artificial with
    | nil => rfl
    | cons c cs ih =>
      rw [startRows]
      split <;> simp [ih]
  simp [ofProblem, length]

theorem shaped_ofProblem {p : Problem α} (sized : p.WellSized) : (ofProblem p).Shaped := by
  constructor
  · apply length_startRows
    intro c mem
    obtain ⟨d, d_mem, rfl⟩ := List.mem_map.mp mem
    rw [Constraint.length_normalize]
    exact sized.constraints d d_mem
  · have count : p.objective.coefficients.length = p.layout.decisionCount := sized.objective
    simp only [ofProblem, startObjective]
    cases p.objective.sense <;> simp [count, Layout.width, Layout.realCount, Nat.add_assoc]

end Tableau

/-! ## Chosen positions -/

/-- The scan ends at a candidate, or keeps what it was given.  What holds of all values below the
bound, and goes down to smaller ones, holds of this candidate. -/
theorem leastIndexFrom_chosen {P : α → Prop} {candidates : List (Option α)} {position i : Nat}
    {bound : Option α} {found : Option Nat} (start : ∀ x, isBelow bound x = true → P x)
    (down : ∀ b x, P b → x < b → P x)
    (chosen : leastIndexFrom position bound found candidates = some i) :
    found = some i ∨ ∃ k x, i = position + k ∧ candidates[k]? = some (some x) ∧ P x := by
  induction candidates generalizing position bound found with
  | nil => exact Or.inl chosen
  | cons candidate rest ih =>
    -- A candidate further on is counted from one position later.
    have further : ∀ {found' : Option Nat}, (found' = some i ∨ ∃ k x, i = position + 1 + k ∧
          rest[k]? = some (some x) ∧ P x) →
        found' = some i ∨ ∃ k x, i = position + k ∧
          (candidate :: rest)[k]? = some (some x) ∧ P x := by
      rintro found' (kept | ⟨k, x, rfl, at_k, holds⟩)
      · exact Or.inl kept
      · exact Or.inr ⟨k + 1, x, by omega, at_k, holds⟩
    cases candidate with
    | none =>
      rw [leastIndexFrom] at chosen
      exact further (ih start chosen)
    | some x =>
      rw [leastIndexFrom] at chosen
      split at chosen
      · next below =>
        have next_start : ∀ y, isBelow (some x) y = true → P y :=
          fun y smaller => down x y (start x below) (of_decide_eq_true smaller)
        rcases further (ih next_start chosen) with here | later
        · cases here
          exact Or.inr ⟨0, x, rfl, rfl, start x below⟩
        · exact Or.inr later
      · exact further (ih start chosen)

theorem leastIndex_chosen {P : α → Prop} {candidates : List (Option α)} {bound : Option α} {i : Nat}
    (start : ∀ x, isBelow bound x = true → P x) (down : ∀ b x, P b → x < b → P x)
    (chosen : leastIndex bound candidates = some i) :
    ∃ x, candidates[i]? = some (some x) ∧ P x := by
  rcases leastIndexFrom_chosen start down chosen with impossible | ⟨k, x, rfl, at_k, holds⟩
  · cases impossible
  · rw [Nat.zero_add]
    exact ⟨x, at_k, holds⟩

theorem leastIndex_lt {candidates : List (Option α)} {bound : Option α} {i : Nat}
    (chosen : leastIndex bound candidates = some i) : i < candidates.length := by
  obtain ⟨x, at_i, _⟩ := leastIndex_chosen (P := fun _ => True) (fun _ _ => trivial)
    (fun _ _ _ _ => trivial) chosen
  exact (List.getElem?_eq_some_iff.mp at_i).1

/-- The scan finds nothing only if it was given nothing and no candidate is below the bound. -/
theorem leastIndexFrom_eq_none {candidates : List (Option α)} {position : Nat} {bound : Option α}
    {found : Option Nat} (none_found : leastIndexFrom position bound found candidates = none) :
    found = none ∧ ∀ x, some x ∈ candidates → isBelow bound x = false := by
  induction candidates generalizing position bound found with
  | nil => exact ⟨none_found, fun x mem => absurd mem List.not_mem_nil⟩
  | cons candidate rest ih =>
    cases candidate with
    | none =>
      rw [leastIndexFrom] at none_found
      obtain ⟨nothing, above⟩ := ih none_found
      refine ⟨nothing, fun x mem => ?_⟩
      rcases List.mem_cons.mp mem with impossible | mem
      · cases impossible
      · exact above x mem
    | some y =>
      rw [leastIndexFrom] at none_found
      split at none_found
      · cases (ih none_found).1
      · next not_below =>
        obtain ⟨nothing, above⟩ := ih none_found
        refine ⟨nothing, fun x mem => ?_⟩
        rcases List.mem_cons.mp mem with here | mem
        · cases here
          exact Bool.eq_false_iff.mpr not_below
        · exact above x mem

namespace Tableau

variable {t : Tableau α} {c i : Nat}

theorem enteringColumn_lt {withArtificials : Bool} (shaped : t.Shaped)
    (entering : t.enteringColumn withArtificials = some c) : c < t.layout.width := by
  have below := leastIndex_lt entering
  rw [List.length_map, List.length_take, shaped.objective_width] at below
  omega

theorem leavingRow_lt (leaving : t.leavingRow c = some i) : i < t.constraintCount := by
  have below := leastIndex_lt leaving
  rwa [List.length_map] at below

/-- The leaving row has a positive entry. -/
theorem zero_lt_entry_of_leavingRow (leaving : t.leavingRow c = some i) :
    ∃ r, t.rows[i]? = some r ∧ 0 < r.row.entry c := by
  obtain ⟨x, at_i, _⟩ := leastIndex_chosen (P := fun _ => True) (fun _ _ => trivial)
    (fun _ _ _ _ => trivial) leaving
  rw [List.getElem?_map, Option.map_eq_some_iff] at at_i
  obtain ⟨r, at_i, candidate⟩ := at_i
  refine ⟨r, at_i, ?_⟩
  unfold ratio at candidate
  split at candidate
  · next positive => exact positive
  · cases candidate

/-- Driving out asks for a real column with an entry above the tolerance or of such a magnitude, and
only in a row with an artificial basic variable. -/
theorem driveOutColumn_chosen {tolerance : α} (found : t.driveOutColumn tolerance i = some c) :
    ∃ r, t.rows[i]? = some r ∧ t.layout.isArtificial r.basic = true ∧ c < t.layout.realCount ∧
      (tolerance < r.row.entry c ∨ tolerance < Scalar.abs (r.row.entry c)) := by
  unfold driveOutColumn at found
  split at found
  · cases found
  · next r at_i =>
    split at found
    · next artificial =>
      have seen : ∀ {f : α → Bool}, (r.row.cells.take t.layout.realCount).findIdx? f = some c →
          c < t.layout.realCount ∧ f (r.row.entry c) = true := by
        intro f hit
        obtain ⟨bound, holds, _⟩ := List.findIdx?_eq_some_iff_getElem.mp hit
        rw [List.getElem_take] at holds
        rw [List.length_take, Nat.lt_min] at bound
        have entry : r.row.entry c = r.row.cells[c] := List.getD_eq_getElem _ _ bound.2
        exact ⟨bound.1, entry ▸ holds⟩
      refine ⟨r, at_i, artificial, ?_⟩
      rcases (Option.orElse_eq_some _ _ _).mp found with first | ⟨_, second⟩
      · exact (seen first).imp_right fun large => Or.inl (of_decide_eq_true large)
      · exact (seen second).imp_right fun large => Or.inr (of_decide_eq_true large)
    · cases found

theorem driveOutColumn_bounds {tolerance : α} (found : t.driveOutColumn tolerance i = some c) :
    ∃ r, t.rows[i]? = some r ∧ t.layout.isArtificial r.basic = true ∧ c < t.layout.realCount := by
  obtain ⟨r, at_i, artificial, real, _⟩ := driveOutColumn_chosen found
  exact ⟨r, at_i, artificial, real⟩

end Tableau

end LinearProgram

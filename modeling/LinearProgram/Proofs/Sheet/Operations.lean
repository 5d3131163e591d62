import LinearProgram.Proofs.Labels
import LinearProgram.Proofs.Sheet.Rows
import LinearProgram.Proofs.Sheet.Solve

/-!
# Operations on the sheet of a tableau

Every tableau can be written down as a sheet.  If all its rows are as long as its
layout says, if its basic columns are variable columns and if no two columns have
the same label, then no access to its sheet fails, and each operation on the
sheet leads to the sheet of the tableau to which the operation on the tableau
leads.

* `Tableau.sheet_enteringColumn`, `Tableau.sheet_leavingRow`: the two rules.
* `Tableau.sheet_pivot`, `Tableau.sheet_loadObjective`: the two large operations.
-/

namespace LinearProgram

variable {α : Type}

/-! ## The sheet of a tableau -/

namespace Tableau

section Written

/-- A tableau as it is written down. -/
def sheet (t : Tableau α) : Sheet α :=
  { data := t.entries
    labels := t.layout.labels
    decisions := t.layout.decisionCount
    slacks := t.layout.slacks
    artificials := t.layout.artificials
    basis := t.basisNames }

variable {t : Tableau α} {i : Nat} {r : BasicRow α}

theorem getElem?_allRows (at_i : t.rows[i]? = some r) : t.allRows[i]? = some r.row := by
  have inside := (List.getElem?_eq_some_iff.mp at_i).1
  rw [allRows, List.getElem?_append_left (by simpa using inside), List.getElem?_map, at_i,
    Option.map_some]

theorem getElem?_allRows_objective (t : Tableau α) :
    t.allRows[t.constraintCount]? = some t.objective := by
  have count : t.constraintCount = (t.rows.map BasicRow.row).length := by
    rw [List.length_map, constraintCount]
  rw [allRows, count, List.getElem?_concat_length]

@[simp] theorem length_allRows (t : Tableau α) : t.allRows.length = t.constraintCount + 1 := by
  simp [allRows, constraintCount]

theorem getElem?_data_sheet {q : Row α} (at_i : t.allRows[i]? = some q) :
    t.sheet.data[i]? = some q.entries := by
  show (t.allRows.map Row.entries)[i]? = _
  rw [List.getElem?_map, at_i, Option.map_some]

@[simp] theorem length_data_sheet (t : Tableau α) :
    t.sheet.data.length = t.constraintCount + 1 := by
  show (t.allRows.map Row.entries).length = _
  rw [List.length_map, length_allRows]

@[simp] theorem objectiveRow?_sheet (t : Tableau α) :
    t.sheet.objectiveRow? = some t.constraintCount := by
  rw [Sheet.objectiveRow?, length_data_sheet]
  rfl

@[simp] theorem rhsColumn?_sheet (t : Tableau α) :
    t.sheet.rhsColumn? = some t.layout.rhsColumn := by
  show t.layout.labels.length.ppred = _
  rw [Layout.length_labels]
  rfl

theorem length_of_mem_allRows (shaped : t.Shaped) {q : Row α} (mem : q ∈ t.allRows) :
    q.cells.length = t.layout.width := by
  rcases List.mem_append.mp mem with constraint | objective
  · obtain ⟨r, r_mem, rfl⟩ := List.mem_map.mp constraint
    exact shaped.width r r_mem
  · rw [List.mem_singleton.mp objective]
    exact shaped.objective_width

/-- All rows of the sheet have one entry for each label. -/
theorem length_entries_of_mem (shaped : t.Shaped) {q : Row α} (mem : q ∈ t.allRows) :
    q.entries.length = t.sheet.labels.length := by
  show _ = t.layout.labels.length
  rw [Row.length_entries, length_of_mem_allRows shaped mem, Layout.length_labels]
  rfl

/-- The right-hand side of a row stands in the last column. -/
theorem rhs?_sheet (shaped : t.Shaped) {q : Row α} (at_i : t.allRows[i]? = some q) :
    t.sheet.rhs? i = some q.rhs := by
  have width := length_of_mem_allRows shaped (List.mem_of_getElem? at_i)
  rw [Sheet.rhs?, rhsColumn?_sheet]
  show t.sheet.get? i _ = _
  rw [Sheet.get?_of_row (getElem?_data_sheet at_i), Layout.rhsColumn, ← width]
  simp [Row.entries]

end Written

/-- The rows are as long as the layout says, basic columns are variable columns, and no label stands
for two columns. -/
structure Legible [Scalar α] (t : Tableau α) : Prop where
  shaped : t.Shaped
  inside : ∀ r ∈ t.rows, r.basic < t.layout.width
  labels : t.layout.labels.Nodup

variable [Scalar α] {t : Tableau α} {i c : Nat} {r : BasicRow α}

theorem get?_sheet (shaped : t.Shaped) {q : Row α} (at_i : t.allRows[i]? = some q)
    (inside : c < t.layout.width) : t.sheet.get? i c = some (q.entry c) := by
  rw [← length_of_mem_allRows shaped (List.mem_of_getElem? at_i)] at inside
  rw [Sheet.get?_of_row (getElem?_data_sheet at_i), Row.getElem?_entries inside]

/-! ## The two rules -/

/-- Scanning from a position on finds what the recursion over the candidates finds. -/
theorem foldlM_keepLeast (candidates : List (Option α)) (value : Nat → Option (Option α))
    (position : Nat) (bound : Option α) (found : Option Nat)
    (values : ∀ i < candidates.length, value (position + i) = candidates[i]?) :
    ∃ least, (List.range' position candidates.length).foldlM
      (fun least i => do return Sheet.keepLeast least i (← value i)) (bound, found) =
        some (least, leastIndexFrom position bound found candidates) := by
  induction candidates generalizing position bound found with
  | nil => exact ⟨bound, rfl⟩
  | cons candidate rest ih =>
    have here : value position = some candidate := values 0 (Nat.succ_pos _)
    have later : ∀ i < rest.length, value (position + 1 + i) = rest[i]? := by
      intro i inside
      have shifted := values (i + 1) (Nat.succ_lt_succ inside)
      rwa [List.getElem?_cons_succ, ← Nat.add_assoc, Nat.add_right_comm] at shifted
    rw [List.length_cons, List.range'_succ, List.foldlM_cons, here]
    cases candidate with
    | none => exact ih (position + 1) bound found later
    | some x =>
      show ∃ least, List.foldlM _ (if isBelow bound x then _ else _) _ = _
      rw [leastIndexFrom]
      split
      · exact ih (position + 1) (some x) (some position) later
      · exact ih (position + 1) bound found later

theorem scan?_eq (candidates : List (Option α)) (value : Nat → Option (Option α))
    (bound : Option α) (values : ∀ i < candidates.length, value i = candidates[i]?) :
    Sheet.scan? bound candidates.length value = some (leastIndex bound candidates) := by
  obtain ⟨least, eq⟩ := foldlM_keepLeast candidates value 0 bound none
    (fun i inside => (congrArg value (Nat.zero_add i)).trans (values i inside))
  rw [Sheet.scan?, List.range_eq_range', eq]
  rfl

theorem sheet_enteringColumn (shaped : t.Shaped) (withArtificials : Bool) :
    t.sheet.enteringColumn? withArtificials = some (t.enteringColumn withArtificials) := by
  have scan : ∀ last ≤ t.layout.width, Sheet.scan? (some 0) last
      (fun j => do return some (← t.sheet.get? t.constraintCount j)) =
        some (leastIndex (some 0) ((t.objective.cells.take last).map some)) := by
    intro last within
    have length : ((t.objective.cells.take last).map some).length = last := by
      rw [List.length_map, List.length_take, shaped.objective_width, Nat.min_eq_left within]
    have values := scan?_eq ((t.objective.cells.take last).map some)
      (fun j => do return some (← t.sheet.get? t.constraintCount j)) (some 0) fun j inside => ?_
    · rwa [length] at values
    · rw [length] at inside
      have bound : j < t.objective.cells.length := shaped.objective_width ▸ inside.trans_le within
      rw [get?_sheet shaped t.getElem?_allRows_objective (inside.trans_le within),
        List.getElem?_map, List.getElem?_take_of_lt inside, Row.getElem?_cells bound]
      rfl
  rw [Sheet.enteringColumn?, objectiveRow?_sheet]
  refine scan _ ?_
  split
  · exact le_rfl
  · exact Nat.le_add_right _ _

theorem sheet_leavingRow (shaped : t.Shaped) (inside : c < t.layout.width) :
    t.sheet.leavingRow? c = some (t.leavingRow c) := by
  have length : (t.rows.map (ratio c)).length = t.constraintCount := List.length_map _
  rw [Sheet.leavingRow?, objectiveRow?_sheet, ← length]
  refine scan?_eq (t.rows.map (ratio c)) _ none fun i bound => ?_
  · rw [length] at bound
    have at_i : t.rows[i]? = some t.rows[i] := List.getElem?_eq_getElem bound
    rw [get?_sheet shaped (getElem?_allRows at_i) inside, List.getElem?_map, at_i,
      rhs?_sheet shaped (getElem?_allRows at_i)]
    show (if 0 < t.rows[i].row.entry c then _ else _) = some (ratio c t.rows[i])
    unfold ratio
    split <;> rfl

/-! ## Changing a tableau -/

/-- A pivot divides one row and then clears the column in the others. -/
theorem allRows_pivot (at_i : t.rows[i]? = some r) (c : Nat) :
    (t.pivot i c).allRows = (t.allRows.set i (r.row.divide (r.row.entry c))).mapIdx fun k q =>
      if k = i then q else q.eliminate c (r.row.divide (r.row.entry c)) := by
  have inside : i < t.rows.length := (List.getElem?_eq_some_iff.mp at_i).1
  refine List.ext_getElem? fun k => ?_
  unfold pivot allRows
  rw [at_i]
  simp only [List.getElem?_append, List.getElem?_mapIdx, List.getElem?_set, List.length_map,
    List.length_mapIdx, List.length_append, List.getElem?_map]
  by_cases same : i = k
  · subst same
    simp [inside, Nat.lt_succ_of_lt inside]
  · rw [if_neg same]
    by_cases before : k < t.rows.length
    · simp [before, Ne.symm same]
    · simp [before, Ne.symm same, List.getElem?_singleton]

theorem basisNames_pivot (at_i : t.rows[i]? = some r) (c : Nat) :
    (t.pivot i c).basisNames = t.basisNames.set i (t.layout.label c) := by
  have inside := (List.getElem?_eq_some_iff.mp at_i).1
  unfold basisNames
  rw [pivot_layout, List.set_append, List.length_map, if_pos inside]
  congr 1
  refine List.ext_getElem? fun k => ?_
  unfold pivot
  rw [at_i]
  simp only [List.getElem?_map, List.getElem?_mapIdx, List.getElem?_set, List.length_map]
  by_cases same : i = k
  · subst same
    rw [if_pos rfl, if_pos inside, at_i]
    simp
  · rw [if_neg same]
    cases t.rows[k]? with
    | none => rfl
    | some q => simp [Ne.symm same]

theorem sheet_pivot (shaped : t.Shaped) (at_i : t.rows[i]? = some r) (inside : c < t.layout.width) :
    t.sheet.pivot? i c = some (t.pivot i c).sheet := by
  have here := getElem?_allRows at_i
  have bound : i < t.allRows.length := (List.getElem?_eq_some_iff.mp here).1
  have r_mem := List.mem_of_getElem? here
  let solved := r.row.divide (r.row.entry c)
  have divide : t.sheet.divideRow? i (r.row.entry c) =
      some (t.sheet.withData ((t.allRows.set i solved).map Row.entries)) := by
    rw [Sheet.divideRow?_eq (getElem?_data_sheet here) (length_entries_of_mem shaped r_mem),
      List.map_set]
    rfl
  have clear := Sheet.foldlM_eliminateRow? (i := i) (c := c) (s := solved)
    (t := t.sheet.withData ((t.allRows.set i solved).map Row.entries)) rfl
    (List.getElem?_set_self bound) (fun q mem => ?_) inside
    t.layout.length_labels
  · rw [List.length_set, length_allRows, ← length_data_sheet, ← allRows_pivot at_i] at clear
    refine bind_of_eq_some (get?_sheet shaped here inside) (bind_of_eq_some divide
      (bind_of_eq_some clear (bind_of_eq_some (getElem?_basisNames at_i)
        (bind_of_eq_some (Layout.getElem?_labels inside) ?_))))
    show some _ = some (t.pivot i c).sheet
    unfold sheet
    rw [basisNames_pivot at_i, pivot_layout]
    rfl
  · rcases List.mem_or_eq_of_mem_set mem with old | rfl
    · exact length_of_mem_allRows shaped old
    · show (List.map _ r.row.cells).length = _
      rw [List.length_map, length_of_mem_allRows shaped r_mem]

theorem rows_clearRhs (at_i : t.rows[i]? = some r) :
    (t.clearRhs i).rows = t.rows.set i { r with row := { r.row with rhs := 0 } } := by
  unfold clearRhs
  rw [List.modify_eq_set_getElem?, at_i]
  rfl

theorem sheet_clearRhs (shaped : t.Shaped) (at_i : t.rows[i]? = some r) :
    t.sheet.clearRhs? i = some (t.clearRhs i).sheet := by
  have inside : i < t.rows.length := (List.getElem?_eq_some_iff.mp at_i).1
  have width := shaped.width r (List.mem_of_getElem? at_i)
  have rows : (t.clearRhs i).entries =
      t.entries.set i ({ r.row with rhs := 0 } : Row α).entries := by
    rw [entries_eq, entries_eq, rows_clearRhs at_i, List.map_set,
      List.set_append_left _ _ (by rwa [List.length_map])]
    rfl
  have names : (t.clearRhs i).basisNames = t.basisNames := by
    obtain ⟨_, rfl⟩ := List.getElem?_eq_some_iff.mp at_i
    have kept := List.set_getElem_self (inside.trans_eq
      (List.length_map (f := fun r => t.layout.label r.basic)).symm)
    rw [List.getElem_map] at kept
    unfold basisNames
    rw [rows_clearRhs at_i, List.map_set, clearRhs_layout]
    exact congrArg (· ++ [objectiveLabel]) kept
  refine bind_of_eq_some t.rhsColumn?_sheet ?_
  rw [Layout.rhsColumn, ← width, Sheet.set?_rhs (getElem?_data_sheet (getElem?_allRows at_i))]
  unfold sheet Sheet.setRow
  rw [rows, names, clearRhs_layout]

omit [Scalar α] in
/-- Another objective row on the sheet is another objective row of the tableau. -/
theorem setRow_sheet (t : Tableau α) (o : Row α) :
    t.sheet.setRow t.constraintCount o.entries = { t with objective := o }.sheet := by
  have rows : t.entries.set t.constraintCount o.entries = { t with objective := o }.entries := by
    rw [entries_eq, entries_eq, constraintCount, List.set_append_right _ _ (by simp),
      List.length_map, Nat.sub_self]
    rfl
  unfold Sheet.setRow sheet
  rw [rows]
  rfl

/-- A basic variable is found by its name. -/
theorem columnOf_basisNames (legible : t.Legible) (at_i : t.rows[i]? = some r) :
    t.basisNames[i]?.bind t.layout.columnOf = some r.basic := by
  rw [getElem?_basisNames at_i]
  exact Layout.columnOf_label legible.labels (legible.inside r (List.mem_of_getElem? at_i))

theorem sheet_eliminateObjective (shaped : t.Shaped) (at_i : t.rows[i]? = some r)
    (inside : c < t.layout.width) :
    t.sheet.eliminateRow? t.constraintCount i c =
      some { t with objective := t.objective.eliminate c r.row }.sheet := by
  have i_lt : i < t.constraintCount := (List.getElem?_eq_some_iff.mp at_i).1
  have objective := t.getElem?_allRows_objective
  have width := shaped.objective_width
  have r_width := shaped.width r (List.mem_of_getElem? at_i)
  rw [Sheet.eliminateRow?_eq (getElem?_data_sheet objective)
    (getElem?_data_sheet (getElem?_allRows at_i)) i_lt.ne'
    (length_entries_of_mem shaped (List.mem_of_getElem? objective)) (width.trans r_width.symm)
    (inside.trans_eq width.symm), setRow_sheet]

theorem sheet_loadObjective (legible : t.Legible) {costs : List α}
    (length : costs.length = t.layout.width) :
    t.sheet.loadObjective? costs = some (t.loadObjective costs).sheet := by
  -- The objective row before each pass is what the rows above make of the loaded one.
  let cleared (k : Nat) : Row α := ({ t with rows := t.rows.take k }.loadObjective costs).objective
  let before (k : Nat) : Tableau α := { t with objective := cleared k }
  have shaped (k : Nat) : (before k).Shaped :=
    ⟨legible.shaped.width, (Shaped.loadObjective (t := { t with rows := t.rows.take k })
      ⟨fun r mem => legible.shaped.width r (List.mem_of_mem_take mem),
        legible.shaped.objective_width⟩ length).objective_width⟩
  have whole : before t.constraintCount = t.loadObjective costs := by
    show { t with objective :=
      ({ t with rows := t.rows.take t.rows.length }.loadObjective costs).objective } = _
    rw [List.take_length]
    rfl
  have last := getElem?_data_sheet t.getElem?_allRows_objective
  have copied : copy? costs.length costs (zeros t.objective.entries.length) =
      some (Row.mk costs 0 0).entries := by
    rw [Row.length_entries, legible.shaped.objective_width, ← length, copy?, length_zeros,
      if_pos ⟨Nat.le_add_right _ _, rfl⟩, zeros, List.drop_replicate, Nat.add_sub_cancel_left]
    rfl
  have marked : (t.sheet.setRow t.constraintCount (Row.mk costs 0 0).entries).set?
      t.constraintCount t.layout.width 1 = some (before 0).sheet := by
    rw [← length, Sheet.set?_mark (Sheet.getElem?_setRow_self last _), Sheet.setRow_setRow,
      setRow_sheet]
    rfl
  rw [← whole]
  refine bind_of_eq_some t.objectiveRow?_sheet (bind_of_eq_some last (bind_of_eq_some copied
    (bind_of_eq_some marked (foldlM_range _ (fun k => (before k).sheet) t.constraintCount
      fun k bound => ?_))))
  obtain ⟨r, at_k⟩ : ∃ r, t.rows[k]? = some r := ⟨_, List.getElem?_eq_getElem bound⟩
  have next : cleared (k + 1) = (cleared k).eliminate r.basic r.row := by
    show List.foldl _ _ (t.rows.take (k + 1)) = _
    rw [List.take_add_one, at_k, List.foldl_append]
    rfl
  have found := columnOf_basisNames legible at_k
  have column : (before k).sheet.basis[k]?.bind (before k).sheet.columnOf = some r.basic := found
  rw [column, show before (k + 1) = { t with objective := cleared (k + 1) } from rfl, next]
  exact sheet_eliminateObjective (shaped k) at_k (legible.inside r (List.mem_of_getElem? at_k))

theorem sheet_rhsScale (shaped : t.Shaped) : t.sheet.rhsScale? = some t.rhsScale := by
  rw [Sheet.rhsScale?, objectiveRow?_sheet]
  refine foldlM_range_eq_foldl t.rows (fun m i r at_i => ?_) 1
  rw [rhs?_sheet shaped (getElem?_allRows at_i)]
  rfl

theorem sheet_artificialCosts (t : Tableau α) :
    t.sheet.artificialCosts = artificialCosts t.layout := by
  show (List.range (t.layout.realCount + t.layout.artificials)).map
    (fun j => if t.layout.isArtificial j then 1 else 0) = _
  rw [List.range_add, List.map_append, List.map_map, artificialCosts]
  congr 1
  · refine List.eq_replicate_iff.mpr ⟨by simp, fun x mem => ?_⟩
    obtain ⟨j, inside, rfl⟩ := List.mem_map.mp mem
    simp [Layout.isArtificial, Nat.not_le.mpr (List.mem_range.mp inside)]
  · refine List.eq_replicate_iff.mpr ⟨by simp, fun x mem => ?_⟩
    obtain ⟨j, inside, rfl⟩ := List.mem_map.mp mem
    simp [Layout.isArtificial, Layout.width, List.mem_range.mp inside]

theorem sheet_pivotAt (shaped : t.Shaped) (at_i : t.rows[i]? = some r)
    (inside : c < t.layout.width) (iteration : Nat) :
    t.sheet.pivotAt? iteration i c = some (t.pivotAt iteration i c) := by
  have element := entry_of_getElem? at_i c
  have leaving : t.basicColumn i = some r.basic := by
    rw [basicColumn, at_i]
    rfl
  refine bind_of_eq_some (get?_sheet shaped (getElem?_allRows at_i) inside)
    (bind_of_eq_some (Layout.getElem?_labels inside) ?_)
  show some (Pivot.mk _ _ _ _ _ (t.basisNames[i]?.getD "")) = _
  rw [getElem?_basisNames at_i, pivotAt, element, leaving]
  rfl

/-! ## Driving out -/

theorem sheet_find (shaped : t.Shaped) (at_i : t.rows[i]? = some r) {count : Nat}
    (within : count ≤ t.layout.width) (test : α → Bool) :
    t.sheet.find? i count test = some ((r.row.cells.take count).findIdx? test) := by
  have width := shaped.width r (List.mem_of_getElem? at_i)
  have length : (r.row.cells.take count).length = count := by
    rw [List.length_take, width, Nat.min_eq_left within]
  have found := findM?_range (r.row.cells.take count)
    (fun j => do return test (← t.sheet.get? i j)) test fun j x at_j => ?_
  · rwa [length] at found
  · have inside : j < count := length ▸ (List.getElem?_eq_some_iff.mp at_j).1
    have bound : j < r.row.cells.length := width ▸ inside.trans_le within
    rw [List.getElem?_take_of_lt inside, Row.getElem?_cells bound] at at_j
    rw [get?_sheet shaped (getElem?_allRows at_i) (inside.trans_le within), at_j]
    rfl

theorem sheet_driveOutColumn (legible : t.Legible) (at_i : t.rows[i]? = some r) (tolerance : α) :
    t.sheet.driveOutColumn? tolerance i = some (t.driveOutColumn tolerance i) := by
  have column := columnOf_basisNames legible at_i
  have find := sheet_find legible.shaped at_i (Nat.le_add_right t.layout.realCount _)
  have artificial : (t.sheet.columnOf (t.layout.label r.basic)).any t.sheet.isArtificial =
      t.layout.isArtificial r.basic := by
    rw [getElem?_basisNames at_i, Option.bind_some] at column
    show (t.layout.columnOf (t.layout.label r.basic)).any t.layout.isArtificial = _
    rw [column, Option.any_some]
  unfold Sheet.driveOutColumn? driveOutColumn
  rw [at_i]
  have name : t.sheet.basis[i]? = some (t.layout.label r.basic) := getElem?_basisNames at_i
  rw [name]
  dsimp only
  rw [artificial]
  split
  · refine bind_of_eq_some (find _) ?_
    cases (r.row.cells.take t.layout.realCount).findIdx? fun x => decide (tolerance < x) with
    | none => exact find _
    | some column => rfl
  · rfl

end Tableau

end LinearProgram

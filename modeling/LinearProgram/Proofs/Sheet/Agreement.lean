import LinearProgram.Proofs.Course
import LinearProgram.Proofs.Sheet.Start

/-!
# Solving on sheets never fails

Every tableau of a run is legible and has the columns and the number of rows of
the starting one (`Tableau.FormOf`), because each transition keeps this.  So each
step of a solve on sheets can be carried out and leads where the run on tableaux
leads: no index is out of range, no slice is too long, no copy goes wrong and the
counter of pivots is never beyond the budget.  None of this asks what the numbers
are; the arithmetic may overflow, round or be undefined.

* `Tableau.sheet_improve`, `Solver.sheet_trail`: the loop and the whole run.
* `Solver.solve_checked`: validation, the starting sheet and the report, for any
  problem, together with the form of all sheets that are recorded.
-/

namespace LinearProgram

variable {α : Type}

/-! ## Runs on sheets -/

/-- The same moment, written down. -/
def Moment.onSheet (m : Moment α) : Event α × Sheet α := (m.event, m.tableau.sheet)

/-- The same trail, written down. -/
def Trail.onSheets (t : Trail α) : Sheet.Trail α :=
  ⟨t.moments.map Moment.onSheet, t.tableau.sheet, t.iterations, t.stage, t.verdict⟩

theorem Trail.onSheets_after (moments : List (Moment α)) (t : Trail α) :
    (t.after moments).onSheets = t.onSheets.after (moments.map Moment.onSheet) := by
  unfold onSheets after Sheet.Trail.after
  rw [List.map_append]

/-- The same report, written down. -/
def Report.onSheets (r : Report α) : Sheet.Report α :=
  ⟨r.solution, r.steps.map fun x => ⟨x.number, x.event, x.tableau.sheet⟩⟩

variable [Scalar α]

/-! ## The form of the tableaux of a run -/

namespace Tableau

/-- A legible tableau with the columns and the number of rows of another one. -/
structure FormOf (start t : Tableau α) : Prop where
  legible : t.Legible
  layout : t.layout = start.layout
  rows : t.rows.length = start.rows.length

variable {start t : Tableau α} {i c : Nat}

theorem Legible.refl (legible : t.Legible) : FormOf t t := ⟨legible, rfl, rfl⟩

namespace FormOf

variable (form : FormOf start t)

include form

theorem trans {u : Tableau α} (next : FormOf t u) : FormOf start u :=
  ⟨next.legible, next.layout.trans form.layout, next.rows.trans form.rows⟩

theorem pivot (inside : c < t.layout.width) (i : Nat) : FormOf start (t.pivot i c) := by
  refine ⟨⟨form.legible.shaped.pivot i c, ?_, by simpa using form.legible.labels⟩,
    by simpa using form.layout, by simpa using form.rows⟩
  rw [pivot_layout]
  unfold Tableau.pivot
  split
  · exact form.legible.inside
  · intro s mem
    obtain ⟨k, k_lt, rfl⟩ := List.mem_mapIdx.mp mem
    split
    · exact inside
    · exact form.legible.inside t.rows[k] (List.getElem_mem k_lt)

theorem clearRhs (i : Nat) : FormOf start (t.clearRhs i) := by
  refine ⟨⟨form.legible.shaped.clearRhs i, fun s mem => ?_, form.legible.labels⟩, form.layout,
    (List.length_modify _ _ _).trans form.rows⟩
  obtain ⟨k, at_k⟩ := List.mem_iff_getElem?.mp mem
  rw [Tableau.clearRhs, List.getElem?_modify] at at_k
  obtain ⟨r, r_at, rfl⟩ := Option.map_eq_some_iff.mp at_k
  have inside := form.legible.inside r (List.mem_of_getElem? r_at)
  split <;> exact inside

theorem loadObjective {costs : List α} (width : costs.length = t.layout.width) :
    FormOf start (t.loadObjective costs) :=
  ⟨⟨form.legible.shaped.loadObjective width, form.legible.inside, form.legible.labels⟩,
    form.layout, form.rows⟩

end FormOf

end Tableau

variable {s : Solver α} {start : Tableau α} {a b : Configuration α} {m : Moment α}
  {ms : List (Moment α)}

/-- Every transition keeps the form of the starting tableau, whatever the numbers are. -/
theorem Transition.formOf (start_shaped : start.Shaped) (step : Transition s start a m b)
    (form : start.FormOf a.tableau) : start.FormOf b.tableau ∧ start.FormOf m.tableau := by
  cases step with
  | start => exact ⟨form, form⟩
  | finish => exact ⟨form, form⟩
  | priceArtificials =>
    have priced := form.loadObjective (Tableau.length_artificialCosts _)
    exact ⟨priced, priced⟩
  | restoreObjective =>
    have restored := form.loadObjective
      (start_shaped.objective_width.trans (congrArg Layout.width form.layout).symm)
    exact ⟨restored, restored⟩
  | pivot _ entering _ =>
    exact ⟨form.pivot (Tableau.enteringColumn_lt form.legible.shaped entering) _, form⟩
  | driveOut _ found =>
    obtain ⟨_, _, _, real⟩ := Tableau.driveOutColumn_bounds found
    exact ⟨(form.clearRhs _).pivot (real.trans_le (Nat.le_add_right _ _)) _, form⟩

theorem Course.formOf (start_shaped : start.Shaped) (course : Course s start a ms b)
    (form : start.FormOf a.tableau) :
    start.FormOf b.tableau ∧ ∀ m ∈ ms, start.FormOf m.tableau :=
  course.forall_mem (I := fun a => start.FormOf a.tableau)
    (fun step kept => step.formOf start_shaped kept) form

/-! ## The loop -/

namespace Tableau

variable {t : Tableau α} {largest : Nat}

theorem sheet_improve (legible : t.Legible) (stage : Stage) {budget n : Nat}
    (within : n + budget ≤ largest) :
    t.sheet.improve? largest (n + budget) stage n = some (t.improve stage budget n).onSheets := by
  have enters := sheet_enteringColumn legible.shaped (stage == .first)
  induction budget generalizing n t with
  | zero =>
    rw [Nat.add_zero, Sheet.improve?, if_neg (lt_irrefl n)]
    refine bind_of_eq_some enters ?_
    unfold improve
    cases t.enteringColumn (stage == .first) <;> rfl
  | succ budget ih =>
    rw [Sheet.improve?, if_pos (by omega)]
    refine bind_of_eq_some enters ?_
    unfold improve
    cases entering : t.enteringColumn (stage == .first) with
    | none => rfl
    | some c =>
      have column := enteringColumn_lt legible.shaped entering
      refine bind_of_eq_some (sheet_leavingRow legible.shaped column) ?_
      cases leaving : t.leavingRow c with
      | none =>
        simp only [leaving]
        rfl
      | some i =>
        obtain ⟨r, at_i⟩ : ∃ r, t.rows[i]? = some r :=
          ⟨_, List.getElem?_eq_getElem (leavingRow_lt leaving)⟩
        have counted : increment? largest n = some (n + 1) := if_pos (by omega)
        have next := (legible.refl.pivot column i).legible
        have rest := ih (n := n + 1) next (by omega) (sheet_enteringColumn next.shaped _)
        rw [Nat.add_right_comm, Nat.add_assoc] at rest
        refine bind_of_eq_some counted (bind_of_eq_some (sheet_pivotAt legible.shaped at_i column _)
          (bind_of_eq_some (sheet_pivot legible.shaped at_i column) (bind_of_eq_some rest ?_)))
        simp only [leaving]
        rw [Trail.onSheets_after]
        rfl

/-! ## Both phases -/

theorem formOf_priceArtificials (legible : t.Legible) : t.FormOf t.priceArtificials :=
  legible.refl.loadObjective (length_artificialCosts t.layout)

theorem formOf_improve (legible : t.Legible) (stage : Stage) (budget n : Nat) :
    t.FormOf (t.improve stage budget n).tableau :=
  have course : Course ⟨n + budget, 0, true⟩ t ⟨.improving stage, t, n⟩ _ _ :=
    course_improve stage t le_rfl
  (course.formOf legible.shaped legible.refl).1

/-- The column that an unbounded loop mentions is a variable column. -/
theorem unbounded_improve_lt (legible : t.Legible) {stage : Stage} {budget n c : Nat}
    (unbounded : (t.improve stage budget n).verdict = .unbounded c) : c < t.layout.width := by
  have last := formOf_improve legible stage budget n
  rw [← last.layout]
  rcases improve_verdict_cases stage budget n t with ⟨other, _⟩ | ⟨d, same, entering, _⟩ | other
  · cases other.symm.trans unbounded
  · cases same.symm.trans unbounded
    exact enteringColumn_lt last.legible.shaped entering
  · cases other.symm.trans unbounded

theorem sheet_driveOut (legible : t.Legible) (tolerance : α) (n : Nat) {rows : List Nat}
    (inside : ∀ i ∈ rows, i < t.constraintCount) :
    t.sheet.driveOut? tolerance n rows =
      some ((t.driveOut tolerance n rows).1.map Moment.onSheet,
        (t.driveOut tolerance n rows).2.sheet) := by
  induction rows generalizing t with
  | nil => rfl
  | cons i rest ih =>
    obtain ⟨r, at_i⟩ : ∃ r, t.rows[i]? = some r :=
      ⟨_, List.getElem?_eq_getElem (inside i List.mem_cons_self)⟩
    have rest_inside : ∀ k ∈ rest, k < t.constraintCount := fun k mem =>
      inside k (List.mem_cons_of_mem i mem)
    rw [Sheet.driveOut?, driveOut]
    refine bind_of_eq_some (sheet_driveOutColumn legible at_i tolerance) ?_
    cases found : t.driveOutColumn tolerance i with
    | none => exact ih legible rest_inside
    | some c =>
      obtain ⟨_, _, _, real⟩ := driveOutColumn_bounds found
      have column : c < t.layout.width := real.trans_le (Nat.le_add_right _ _)
      have cleared := legible.refl.clearRhs i
      obtain ⟨q, q_at⟩ : ∃ q, (t.clearRhs i).rows[i]? = some q :=
        ⟨_, List.getElem?_eq_getElem ((inside i List.mem_cons_self).trans_eq cleared.rows.symm)⟩
      have next := cleared.pivot column i
      have later := ih next.legible fun k mem => (rest_inside k mem).trans_eq next.rows.symm
      exact bind_of_eq_some (sheet_pivotAt legible.shaped at_i column n)
        (bind_of_eq_some (sheet_clearRhs legible.shaped at_i)
          (bind_of_eq_some (sheet_pivot cleared.legible.shaped q_at column)
            (bind_of_eq_some later rfl)))

theorem formOf_driveOut (legible : t.Legible) (tolerance : α) (n : Nat) (rows : List Nat) :
    t.FormOf (t.driveOut tolerance n rows).2 := by
  have pending : Pending ⟨n, tolerance, true⟩ t (.exchanging rows) t rows := .rest
  obtain ⟨_, _, course⟩ := course_driveOut (n := n) pending
  exact (course.formOf legible.shaped legible.refl).1

end Tableau

namespace Solver

open Tableau

variable {t : Tableau α}

theorem formOf_firstPhase (s : Solver α) (legible : t.Legible) :
    t.FormOf (s.firstPhase t).tableau :=
  have priced := formOf_priceArtificials legible
  priced.trans (formOf_improve priced.legible .first s.maxIterations 0)

variable {largest n : Nat} {costs : List α} (bounded : s.maxIterations ≤ largest)

include bounded

theorem sheet_secondPhase (legible : t.Legible) (width : costs.length = t.layout.width)
    (within : n ≤ s.maxIterations) :
    s.secondPhase? largest costs n t.sheet = some (s.secondPhase costs n t).onSheets := by
  have driven := formOf_driveOut legible s.tolerance n (List.range t.constraintCount)
  have driven_width := width.trans (congrArg Layout.width driven.layout).symm
  have loop := sheet_improve (driven.loadObjective driven_width).legible .second
    (show n + (s.maxIterations - n) ≤ largest by omega)
  rw [Nat.add_sub_cancel' within] at loop
  have exchanged := sheet_driveOut legible s.tolerance n fun i mem => List.mem_range.mp mem
  refine bind_of_eq_some t.objectiveRow?_sheet (bind_of_eq_some exchanged
    (bind_of_eq_some (sheet_loadObjective driven.legible driven_width)
      (bind_of_eq_some loop ?_)))
  rw [secondPhase, Trail.onSheets_after, List.map_append]
  rfl

theorem sheet_bothPhases (legible : t.Legible) :
    s.bothPhases? largest t.sheet = some (s.bothPhases t).onSheets := by
  have width := legible.shaped.objective_width
  have costs : slice? t.layout.width t.objective.entries = some t.objective.cells := by
    rw [slice?, Row.length_entries, if_pos (by omega), Row.entries, ← width, List.take_left]
  have priced := formOf_priceArtificials legible
  have first := formOf_firstPhase s legible
  have loop : t.priceArtificials.sheet.improve? largest s.maxIterations .first 0 =
      some (s.firstPhase t).onSheets := by
    have eq := sheet_improve priced.legible .first
      (show 0 + s.maxIterations ≤ largest by omega)
    rwa [Nat.zero_add] at eq
  have residual : (s.firstPhase t).tableau.sheet.rhs? t.constraintCount =
      some (s.firstPhase t).tableau.objective.rhs := by
    rw [show t.constraintCount = (s.firstPhase t).tableau.constraintCount from first.rows.symm]
    exact rhs?_sheet first.legible.shaped (getElem?_allRows_objective _)
  have second := sheet_secondPhase bounded first.legible
    (width.trans (congrArg Layout.width first.layout).symm) (s.iterations_firstPhase_le t)
  have price : t.sheet.loadObjective? t.sheet.artificialCosts = some t.priceArtificials.sheet := by
    rw [sheet_artificialCosts]
    exact sheet_loadObjective legible (length_artificialCosts t.layout)
  refine bind_of_eq_some t.objectiveRow?_sheet (bind_of_eq_some
    (getElem?_data_sheet t.getElem?_allRows_objective) (bind_of_eq_some costs (bind_of_eq_some
      (sheet_rhsScale legible.shaped) (bind_of_eq_some price (bind_of_eq_some loop
        (bind_of_eq_some residual ?_))))))
  have verdict : (s.firstPhase t).onSheets.verdict = (s.firstPhase t).verdict := rfl
  rw [verdict]
  rcases s.bothPhases_cases t with ⟨limit, eq⟩ | ⟨other, above, eq⟩ | ⟨other, within, eq⟩
  · rw [eq, limit, Trail.onSheets_after]
    rfl
  · rw [eq, Trail.onSheets_after]
    cases verdict : (s.firstPhase t).verdict with
    | limitReached => exact absurd verdict other
    | optimal | unbounded | infeasible => exact (if_pos above).trans rfl
  · rw [eq, Trail.onSheets_after, Trail.onSheets_after]
    have handed : (do
        let rest ← s.secondPhase? largest t.objective.cells (s.firstPhase t).iterations
          (s.firstPhase t).tableau.sheet
        let rest ← pure (rest.after (s.firstPhase t).onSheets.moments)
        pure (rest.after [(.priceArtificials, t.priceArtificials.sheet)])) =
        some (((s.secondPhase t.objective.cells (s.firstPhase t).iterations
          (s.firstPhase t).tableau).onSheets.after
            ((s.firstPhase t).moments.map Moment.onSheet)).after
              [(.priceArtificials, t.priceArtificials.sheet)]) :=
      bind_of_eq_some second rfl
    cases verdict : (s.firstPhase t).verdict with
    | limitReached => exact absurd verdict other
    | optimal | unbounded | infeasible => exact (if_neg within).trans handed

theorem sheet_trail (legible : t.Legible) :
    s.trail? largest t.sheet = some (s.trail t).onSheets := by
  have loop := sheet_improve legible .only
    (show 0 + s.maxIterations ≤ largest by omega)
  rw [Nat.zero_add] at loop
  unfold trail? trail
  show (if t.layout.artificials = 0 then Option.bind _ _ else Option.bind _ _) = _
  split
  · exact bind_of_eq_some loop rfl
  · exact bind_of_eq_some (sheet_bothPhases bounded legible) rfl

omit bounded

theorem unbounded_trail_lt (legible : t.Legible) {c : Nat}
    (unbounded : (s.trail t).verdict = .unbounded c) : c < t.layout.width := by
  by_cases real : t.layout.artificials = 0
  · rw [(s.trail_of_no_artificials real).2] at unbounded
    exact unbounded_improve_lt legible unbounded
  · rcases s.trail_cases real with ⟨_, other⟩ | ⟨_, _, other⟩ | ⟨_, _, _, same⟩
    · cases other.symm.trans unbounded
    · cases other.symm.trans unbounded
    · rw [same] at unbounded
      have first := formOf_firstPhase s legible
      have driven := formOf_driveOut first.legible s.tolerance (s.firstPhase t).iterations
        (List.range (s.firstPhase t).tableau.constraintCount)
      have layout : (s.drivenOut t).layout = t.layout := driven.layout.trans first.layout
      have width : t.objective.cells.length = (s.drivenOut t).layout.width :=
        legible.shaped.objective_width.trans (congrArg Layout.width layout).symm
      have restored := driven.loadObjective width
      exact (unbounded_improve_lt restored.legible unbounded).trans_eq
        (congrArg Layout.width layout)

/-! ## Reports -/

/-- No two variables share a name, so a row is found by name as it is found by column. -/
theorem sheet_rowOf (legible : t.Legible) {j : Nat} (inside : j < t.layout.width) :
    t.sheet.rowOf? (t.layout.label j) = some (t.rows.findIdx? fun r => r.basic == j) := by
  have names : slice? (t.basisNames.length - 1) t.basisNames =
      some (t.rows.map fun r => t.layout.label r.basic) := by
    rw [slice?, if_pos (Nat.sub_le _ _), basisNames, List.length_append, List.length_singleton,
      Nat.add_sub_cancel, List.take_left]
  refine bind_of_eq_some names ?_
  show some (List.findIdx? _ _) = _
  rw [List.findIdx?_map, findIdx?_congr t.rows fun r mem => ?_]
  show (t.layout.label r.basic == t.layout.label j) = (r.basic == j)
  rw [Bool.eq_iff_iff, beq_iff_eq, beq_iff_eq]
  exact ⟨Layout.label_injOn legible.labels (legible.inside r mem) inside, congrArg _⟩

theorem sheet_values {p : Problem α} (legible : t.Legible)
    (count : p.variableCount ≤ t.layout.width) :
    s.values? p t.sheet = some (s.values p t) := by
  refine mapM_range fun j j_lt => ?_
  have inside := j_lt.trans_le count
  refine bind_of_eq_some (Layout.getElem?_labels inside)
    (bind_of_eq_some (sheet_rowOf legible inside) ?_)
  rw [basicLevel, List.find?_eq_bind_findIdx?_getElem?]
  cases found : t.rows.findIdx? fun r => r.basic == j with
  | none => rfl
  | some i =>
    obtain ⟨i_lt, _⟩ := List.findIdx?_eq_some_iff_getElem.mp found
    have at_i : t.rows[i]? = some t.rows[i] := List.getElem?_eq_getElem i_lt
    refine bind_of_eq_some (rhs?_sheet legible.shaped (getElem?_allRows at_i)) ?_
    rw [Option.bind_some, at_i]
    rfl

theorem sheet_objective {p : Problem α} {u : Trail α} (legible : u.tableau.Legible) :
    s.objective? p (s.values p u.tableau) u.onSheets = some (s.objective p u) := by
  refine bind_of_eq_some u.tableau.objectiveRow?_sheet
    (bind_of_eq_some (rhs?_sheet legible.shaped (getElem?_allRows_objective _)) ?_)
  obtain ⟨moments, tableau, iterations, stage, verdict⟩ := u
  rw [objective]
  cases verdict <;> cases p.objective.sense <;> rfl

omit [Scalar α] in
theorem mapIdx_onSheet (ms : List (Moment α)) :
    (ms.map Moment.onSheet).mapIdx (fun i m => (⟨i + 1, m.1, m.2⟩ : Sheet.Step α)) =
      (Step.ofMoments ms).map fun x => ⟨x.number, x.event, x.tableau.sheet⟩ := by
  refine List.ext_getElem? fun k => ?_
  rw [List.getElem?_mapIdx, List.getElem?_map, List.getElem?_map, Step.getElem?_ofMoments,
    Option.map_map, Option.map_map]
  rfl

theorem sheet_report {p : Problem α} {u : Trail α} (legible : u.tableau.Legible)
    (count : p.variableCount ≤ u.tableau.layout.width)
    (unbounded : ∀ c, u.verdict = .unbounded c → c < u.tableau.layout.width) :
    s.report? p u.onSheets = some (s.report p u).onSheets := by
  obtain ⟨label, mentioned⟩ : ∃ label, verdictLabel? u.tableau.sheet u.verdict = some label := by
    cases verdict : u.verdict with
    | unbounded c => exact ⟨_, Layout.getElem?_labels (unbounded c verdict)⟩
    | optimal | infeasible | limitReached => exact ⟨"", rfl⟩
  refine bind_of_eq_some (sheet_values legible count) (bind_of_eq_some (sheet_objective legible)
    (bind_of_eq_some mentioned ?_))
  let last : Event α := .finish u.verdict (s.solution p u)
  have moments : u.onSheets.moments ++ [(last, u.tableau.sheet)] =
      (u.moments ++ [Moment.mk last u.tableau]).map Moment.onSheet := by
    rw [List.map_append]
    rfl
  show some (Sheet.Report.mk (s.solution p u) (List.mapIdx
    (fun i m => (⟨i + 1, m.1, m.2⟩ : Sheet.Step α))
    (u.onSheets.moments ++ [(last, u.tableau.sheet)]))) = _
  rw [moments, mapIdx_onSheet]
  rfl

end Solver

/-- A sheet has the rows of so many constraints and of the objective, all of them as long as the
labels, the labels and groups of columns of the first sheet, and the name of a variable column for
each constraint row. -/
structure Sheet.HasForm (first : Sheet α) (constraints : Nat) (t : Sheet α) : Prop where
  rows : t.data.length = constraints + 1
  widths : ∀ cells ∈ t.data, cells.length = t.labels.length
  labels : t.labels = first.labels
  decisions : t.decisions = first.decisions
  slacks : t.slacks = first.slacks
  artificials : t.artificials = first.artificials
  names : t.basis.length = t.data.length
  objective : t.basis.getLast? = some objectiveLabel
  basics : ∀ name ∈ t.basis.dropLast, ∃ c < t.markColumn, t.labels[c]? = some name

theorem Tableau.FormOf.hasForm {start t : Tableau α} (form : start.FormOf t) :
    start.sheet.HasForm start.rows.length t.sheet where
  rows := by rw [Tableau.length_data_sheet, Tableau.constraintCount, form.rows]
  widths := by
    intro cells mem
    obtain ⟨q, q_mem, rfl⟩ := List.mem_map.mp mem
    exact Tableau.length_entries_of_mem form.legible.shaped q_mem
  labels := congrArg Layout.labels form.layout
  decisions := congrArg Layout.decisionCount form.layout
  slacks := congrArg Layout.slacks form.layout
  artificials := congrArg Layout.artificials form.layout
  names := by
    rw [Tableau.length_data_sheet]
    show t.basisNames.length = _
    rw [Tableau.basisNames, List.length_append, List.length_map]
    rfl
  objective := List.getLast?_concat
  basics := by
    intro name mem
    rw [show t.sheet.basis = t.basisNames from rfl, Tableau.basisNames, List.dropLast_concat] at mem
    obtain ⟨r, r_mem, rfl⟩ := List.mem_map.mp mem
    have inside := form.legible.inside r r_mem
    exact ⟨r.basic, inside, Layout.getElem?_labels inside⟩

namespace Solver

open Tableau

section Checked

variable {largest : Nat} (bounded : s.maxIterations ≤ largest) (p : Problem α)

include bounded

theorem sheet_solve :
    s.solve? largest p = total ((s.solve p).map Report.onSheets) := by
  rw [solve?, Sheet.build?_eq, solve, Problem.tableau]
  cases valid : p.validate s.twoPhase with
  | error fault => rfl
  | ok =>
    have legible := legible_ofProblem valid
    have last := ((s.course_trail (ofProblem p)).formOf legible.shaped legible.refl).1
    have count : p.variableCount ≤ (ofProblem p).layout.width := by
      have named : p.variableCount = p.names.length :=
        (Problem.wellSized_of_validate valid).objective
      rw [named]
      exact (Nat.le_add_right _ _).trans (Nat.le_add_right _ _)
    have width := congrArg Layout.width last.layout
    show (liftM ((s.trail? largest (ofProblem p).sheet).bind fun u => s.report? p u) :
      ExceptT (Fault α) Option _) = _
    rw [sheet_trail bounded legible]
    show (liftM (s.report? p (s.trail (ofProblem p)).onSheets) : ExceptT (Fault α) Option _) = _
    rw [sheet_report last.legible (count.trans_eq width.symm) fun c unbounded =>
      (unbounded_trail_lt legible unbounded).trans_eq width.symm]
    rfl

/-- Solving on sheets never misses an entry, whatever the problem, the settings and the numbers
are, and all sheets that it records have one form. -/
theorem solve_checked :
    (∀ twoPhase, (p.validate? twoPhase).run = some (p.validate twoPhase)) ∧
      (∀ twoPhase, (Sheet.build? p twoPhase).run =
        some ((p.tableau twoPhase).map Tableau.sheet)) ∧
      (s.solve? largest p).run = some ((s.solve p).map Report.onSheets) ∧
      ∀ r, (s.solve? largest p).run = some (.ok r) →
        ∃ first, r.steps.head? = some first ∧
          ∀ x ∈ r.steps, first.sheet.HasForm p.constraints.length x.sheet := by
  have solved := sheet_solve bounded p
  refine ⟨fun twoPhase => congrArg ExceptT.run (p.validate?_eq twoPhase),
    fun twoPhase => congrArg ExceptT.run (Sheet.build?_eq p twoPhase),
    congrArg ExceptT.run solved, fun r eq => ?_⟩
  rw [solved] at eq
  cases valid : p.validate s.twoPhase with
  | error fault =>
    rw [solve, Problem.tableau, valid] at eq
    cases eq
  | ok =>
    rw [s.solve_of_validate valid] at eq
    cases eq
    have legible := legible_ofProblem valid
    have forms := ((s.course_moments p (ofProblem p)).formOf legible.shaped legible.refl).2
    have first : (s.report p (s.trail (ofProblem p))).onSheets.steps.head? =
        some ⟨1, .start, (ofProblem p).sheet⟩ := by
      show (List.map _ _).head? = _
      rw [List.head?_map, s.head_steps_report]
      rfl
    refine ⟨⟨1, .start, (ofProblem p).sheet⟩, first, fun x mem => ?_⟩
    obtain ⟨y, y_mem, rfl⟩ := List.mem_map.mp mem
    obtain ⟨k, m, at_k, rfl⟩ := Step.mem_ofMoments _ y_mem
    have form := (forms m (List.mem_of_getElem? at_k)).hasForm
    rwa [length_rows_ofProblem] at form

end Checked

/-- A lower bound and an equation, whose right-hand side is negative. -/
def floorAndGap : Problem Rat :=
  { names := ["x1", "x2"]
    objective := ⟨[1, 2], .minimize⟩
    constraints := [⟨"floor", [1, 1], .ge, 2⟩, ⟨"gap", [1, -1], .eq, -1⟩] }

/-- With a negative tolerance nothing is small enough, but nothing is out of place either. -/
theorem solve_checked_negativeTolerance :
    ∃ r, ((Solver.mk 10 (-1) true).solve? (2 ^ 64 - 1) floorAndGap).run = some (.ok r) ∧
      r.solution.status = .infeasible ∧ r.steps.length = 5 ∧
      ∃ first, r.steps.head? = some first ∧
        ∀ x ∈ r.steps, first.sheet.HasForm 2 x.sheet := by
  have valid : floorAndGap.validate true = .ok () := rfl
  obtain ⟨_, _, checked, forms⟩ :=
    solve_checked (show (Solver.mk 10 (-1 : Rat) true).maxIterations ≤ 2 ^ 64 - 1 by decide)
      floorAndGap
  obtain ⟨r, solved⟩ : ∃ r, (Solver.mk 10 (-1) true).solve floorAndGap = .ok r :=
    ⟨_, solve_of_validate _ valid⟩
  rw [solved] at checked
  refine ⟨r.onSheets, checked, status_of_solve solved (by decide +kernel), ?_, forms _ checked⟩
  exact (List.length_map _).trans (eq_of_solve (·.steps.length) solved (by decide +kernel))

end Solver

end LinearProgram

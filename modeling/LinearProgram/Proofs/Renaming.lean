import LinearProgram.Proofs.Sheet.Agreement

/-!
# Names do not matter

Two problems with the same numbers have the same run, whatever their variables
and constraints are called.  A tableau mentions names in its layout only, and no
rule looks at them: renaming the variables of a tableau and then carrying out an
operation is the same as renaming afterwards.  The names that a record mentions
are labels of columns, so the map from the labels of one layout to those at the
same positions of the other takes one record to the other.

On sheets the rows refer to columns by name, and lookups stop at the first match.
There the same holds, because no two columns of an accepted problem have one
label.
-/

namespace LinearProgram

variable {α : Type}

/-! ## Renaming -/

/-- The same columns with other names for the decision variables. -/
def Layout.rename (l : Layout) (names : List String) : Layout := { l with names }

/-- The label of a second layout at the position that a label has in a first one. -/
def Layout.translate (l m : Layout) (name : String) : String :=
  ((l.columnOf name).map m.label).getD name

def Tableau.rename (names : List String) (t : Tableau α) : Tableau α :=
  { t with layout := t.layout.rename names }

def Pivot.rename (f : String → String) (p : Pivot α) : Pivot α :=
  { p with entering := f p.entering, leaving := f p.leaving }

def Event.rename (f : String → String) : Event α → Event α
  | .pivot stage p => .pivot stage (p.rename f)
  | .driveOut p => .driveOut (p.rename f)
  | e => e

def Moment.rename (f : String → String) (names : List String) (m : Moment α) : Moment α :=
  ⟨m.event.rename f, m.tableau.rename names⟩

def Trail.rename (f : String → String) (names : List String) (t : Trail α) : Trail α :=
  { t with moments := t.moments.map (Moment.rename f names), tableau := t.tableau.rename names }

theorem Trail.rename_after (f : String → String) (names : List String) (moments : List (Moment α))
    (t : Trail α) :
    (t.after moments).rename f names =
      (t.rename f names).after (moments.map (Moment.rename f names)) := by
  unfold rename after
  rw [List.map_append]

/-- A step with the numbers of another one, in which the map takes every name to its own. -/
structure Step.Renames (f : String → String) (x y : Step α) : Prop where
  number : y.number = x.number
  event : y.event = x.event.rename f
  entries : y.tableau.entries = x.tableau.entries
  labels : y.tableau.layout.labels = x.tableau.layout.labels.map f
  basis : y.tableau.basisNames = x.tableau.basisNames.map f

/-- A report with the solution of another one, whose steps rename the other one's steps. -/
structure Report.Renames (f : String → String) (r r' : Report α) : Prop where
  solution : r'.solution = r.solution
  steps : List.Forall₂ (Step.Renames f) r.steps r'.steps

/-- Two constraints that differ at most in their names. -/
structure Constraint.SameNumbers (c d : Constraint α) : Prop where
  coefficients : d.coefficients = c.coefficients
  relation : d.relation = c.relation
  rhs : d.rhs = c.rhs

/-- Two problems that differ at most in the names of their variables and constraints. -/
structure Problem.SameNumbers (p q : Problem α) : Prop where
  objective : q.objective = p.objective
  constraints : List.Forall₂ Constraint.SameNumbers p.constraints q.constraints

namespace Layout

variable {l : Layout} {names : List String} (length : names.length = l.names.length)

include length

theorem realCount_rename : (l.rename names).realCount = l.realCount :=
  congrArg (· + l.slacks) length

theorem width_rename : (l.rename names).width = l.width :=
  congrArg (· + l.artificials) (realCount_rename length)

theorem isArtificial_rename (c : Nat) : (l.rename names).isArtificial c = l.isArtificial c := by
  rw [isArtificial, realCount_rename length, width_rename length]
  rfl

omit length

theorem translate_of_getElem? (distinct : l.labels.Nodup) (m : Layout) {c : Nat} {name : String}
    (at_c : l.labels[c]? = some name) : l.translate m name = m.label c := by
  rw [translate, columnOf_of_getElem? distinct at_c]
  rfl

theorem translate_label (distinct : l.labels.Nodup) (m : Layout) {c : Nat} (inside : c < l.width) :
    l.translate m (l.label c) = m.label c :=
  translate_of_getElem? distinct m (getElem?_labels inside)

include length

/-- The labels of both layouts, from left to right. -/
theorem labels_rename (distinct : l.labels.Nodup) :
    (l.rename names).labels = l.labels.map (l.translate (l.rename names)) := by
  have count : (l.rename names).labels.length = l.labels.length := by
    rw [length_labels, length_labels, columnCount, width_rename length, columnCount]
  refine List.ext_getElem (by rw [List.length_map, count]) fun c c_lt _ => ?_
  have inside : c < l.labels.length := c_lt.trans_eq count
  rw [List.getElem_map, translate_of_getElem? distinct _ (List.getElem?_eq_getElem inside), label,
    List.getD_eq_getElem _ _ c_lt]

theorem translate_objectiveLabel (distinct : l.labels.Nodup) :
    l.translate (l.rename names) objectiveLabel = objectiveLabel := by
  have column : (l.rename names).objectiveColumn = l.objectiveColumn := width_rename length
  rw [translate_of_getElem? distinct _ l.getElem?_labels_objectiveColumn, ← column, label,
    List.getD_eq_getElem?_getD, getElem?_labels_objectiveColumn]
  rfl

end Layout

variable [Scalar α]

namespace Tableau

variable {start t : Tableau α} {names : List String} (form : start.FormOf t)
  (length : names.length = start.layout.names.length)

theorem rename_pivot (names : List String) (t : Tableau α) (i c : Nat) :
    (t.rename names).pivot i c = (t.pivot i c).rename names := by
  unfold pivot rename
  dsimp only
  split <;> rfl

include form length

theorem enteringColumn_rename (withArtificials : Bool) :
    (t.rename names).enteringColumn withArtificials = t.enteringColumn withArtificials := by
  have length' : names.length = t.layout.names.length := form.layout ▸ length
  unfold enteringColumn rename
  dsimp only
  rw [Layout.width_rename length', Layout.realCount_rename length']

theorem driveOutColumn_rename (tolerance : α) (i : Nat) :
    (t.rename names).driveOutColumn tolerance i = t.driveOutColumn tolerance i := by
  have length' : names.length = t.layout.names.length := form.layout ▸ length
  unfold driveOutColumn rename
  dsimp only
  simp only [Layout.isArtificial_rename length', Layout.realCount_rename length']

omit length in
theorem pivotAt_rename {i c : Nat} (row : i < t.constraintCount) (column : c < t.layout.width)
    (n : Nat) :
    (t.rename names).pivotAt n i c = (t.pivotAt n i c).rename
      (start.layout.translate (start.layout.rename names)) := by
  obtain ⟨r, at_i⟩ : ∃ r, t.rows[i]? = some r := ⟨_, List.getElem?_eq_getElem row⟩
  have basic : t.basicColumn i = some r.basic := by
    rw [basicColumn, at_i]
    rfl
  have translated : ∀ {k : Nat}, k < t.layout.width →
      start.layout.translate (start.layout.rename names) (t.layout.label k) =
        (t.layout.rename names).label k := by
    intro k inside
    rw [← form.layout]
    exact Layout.translate_label form.legible.labels _ inside
  have entering := translated column
  have leaving := translated (form.legible.inside r (List.mem_of_getElem? at_i))
  unfold pivotAt Pivot.rename
  rw [basic]
  show Pivot.mk n i c _ ((t.layout.rename names).label c)
    (((t.basicColumn i).map (t.layout.rename names).label).getD "") = _
  rw [basic]
  dsimp only [Option.map_some, Option.getD_some]
  rw [entering, leaving]
  rfl

theorem improve_rename (stage : Stage) (budget n : Nat) :
    (t.rename names).improve stage budget n = (t.improve stage budget n).rename
      (start.layout.translate (start.layout.rename names)) names := by
  induction budget generalizing n t with
  | zero =>
    unfold improve
    rw [enteringColumn_rename form length]
    cases t.enteringColumn (stage == .first) <;> rfl
  | succ budget ih =>
    unfold improve
    rw [enteringColumn_rename form length]
    cases entering : t.enteringColumn (stage == .first) with
    | none => rfl
    | some c =>
      have column := enteringColumn_lt form.legible.shaped entering
      have leaving_rename : (t.rename names).leavingRow c = t.leavingRow c := rfl
      simp only [leaving_rename]
      cases leaving : t.leavingRow c with
      | none => rfl
      | some i =>
        dsimp only
        rw [rename_pivot, ih (form.pivot column i),
          pivotAt_rename form (leavingRow_lt leaving) column]
        rfl

theorem driveOut_rename (tolerance : α) (n : Nat) {rows : List Nat} :
    (t.rename names).driveOut tolerance n rows =
      ((t.driveOut tolerance n rows).1.map
        (Moment.rename (start.layout.translate (start.layout.rename names)) names),
        (t.driveOut tolerance n rows).2.rename names) := by
  induction rows generalizing t with
  | nil => rfl
  | cons i rest ih =>
    rw [driveOut, driveOut, driveOutColumn_rename form length]
    cases found : t.driveOutColumn tolerance i with
    | none => exact ih form
    | some c =>
      obtain ⟨r, at_i, _, real⟩ := driveOutColumn_bounds found
      have row : i < t.constraintCount := (List.getElem?_eq_some_iff.mp at_i).1
      have column : c < t.layout.width := real.trans_le (Nat.le_add_right _ _)
      have cleared : (t.rename names).clearRhs i = (t.clearRhs i).rename names := rfl
      dsimp only
      rw [cleared, rename_pivot, ih ((form.clearRhs i).pivot column i),
        pivotAt_rename form row column]
      rfl

theorem priceArtificials_rename :
    (t.rename names).priceArtificials = t.priceArtificials.rename names := by
  have length' : names.length = t.layout.names.length := form.layout ▸ length
  have costs : (artificialCosts (t.layout.rename names) : List α) = artificialCosts t.layout := by
    unfold artificialCosts
    rw [Layout.realCount_rename length']
    rfl
  show (t.rename names).loadObjective (artificialCosts (t.layout.rename names)) = _
  rw [costs]
  rfl

end Tableau

namespace Solver

open Tableau

variable {s : Solver α} {t : Tableau α} {names : List String} (legible : t.Legible)
  (length : names.length = t.layout.names.length)

include legible length

omit legible in
theorem secondPhase_rename {first : Tableau α} (form : t.FormOf first) {costs : List α}
    (width : costs.length = t.layout.width) (n : Nat) :
    s.secondPhase costs n (first.rename names) = (s.secondPhase costs n first).rename
      (t.layout.translate (t.layout.rename names)) names := by
  have driven := form.trans
    (formOf_driveOut form.legible s.tolerance n (List.range first.constraintCount))
  have restored := driven.loadObjective (width.trans (congrArg Layout.width driven.layout).symm)
  have count : (first.rename names).constraintCount = first.constraintCount := rfl
  have loaded (u : Tableau α) :
      (u.rename names).loadObjective costs = (u.loadObjective costs).rename names := rfl
  unfold secondPhase
  rw [count, driveOut_rename form length]
  dsimp only
  rw [loaded, improve_rename restored length, Trail.rename_after, List.map_append]
  rfl

theorem firstPhase_rename :
    s.firstPhase (t.rename names) = (s.firstPhase t).rename
      (t.layout.translate (t.layout.rename names)) names := by
  unfold firstPhase
  rw [priceArtificials_rename legible.refl length,
    improve_rename (formOf_priceArtificials legible) length]

theorem bothPhases_rename :
    s.bothPhases (t.rename names) = (s.bothPhases t).rename
      (t.layout.translate (t.layout.rename names)) names := by
  have first := formOf_firstPhase s legible
  have second := secondPhase_rename (s := s) length first legible.shaped.objective_width
    (s.firstPhase t).iterations
  have price := priceArtificials_rename legible.refl length
  have phase := firstPhase_rename (s := s) legible length
  have verdict := congrArg Trail.verdict phase
  have residual : s.residual (t.rename names) = s.residual t := by
    unfold residual
    rw [phase]
    rfl
  have objective : (t.rename names).objective = t.objective := rfl
  have scale : (t.rename names).rhsScale = t.rhsScale := rfl
  rcases s.bothPhases_cases t with ⟨limit, eq⟩ | ⟨finished, above, eq⟩ | ⟨finished, within, eq⟩
  · rw [bothPhases_of_limitReached (verdict.trans limit), eq, price, phase]
    rfl
  · rw [bothPhases_of_above (fun same => finished (verdict.symm.trans same))
      (by rwa [residual, scale]), eq, price, phase, residual]
    rfl
  · rw [bothPhases_of_within (fun same => finished (verdict.symm.trans same))
      (by rwa [residual, scale]), eq, price, phase, objective, Trail.rename_after,
      Trail.rename_after, ← second]
    rfl

theorem trail_rename :
    s.trail (t.rename names) = (s.trail t).rename
      (t.layout.translate (t.layout.rename names)) names := by
  unfold trail
  show Trail.after _ (if t.layout.artificials = 0 then _ else _) = _
  split
  · rw [improve_rename legible.refl length]
    rfl
  · rw [bothPhases_rename legible length]
    rfl

omit legible length

theorem solution_rename {p q : Problem α} (objective : q.objective = p.objective)
    (f : String → String) (names : List String) (u : Trail α) :
    s.solution q (u.rename f names) = s.solution p u := by
  unfold solution Solver.objective values Problem.variableCount
  rw [objective]
  rfl

end Solver

/-! ## Problems with the same numbers -/

theorem Constraint.SameNumbers.normalize {c d : Constraint α} (same : c.SameNumbers d) :
    c.normalize.SameNumbers d.normalize := by
  unfold Constraint.normalize
  rw [same.rhs]
  split
  · exact ⟨congrArg (List.map (- ·)) same.coefficients, congrArg Relation.flip same.relation, rfl⟩
  · exact same

theorem Tableau.startRows_rename {l : Layout} {names : List String}
    (length : names.length = l.names.length) {cs ds : List (Constraint α)}
    (same : List.Forall₂ Constraint.SameNumbers cs ds) (slack artificial : Nat) :
    startRows (l.rename names) slack artificial ds = startRows l slack artificial cs := by
  have slackColumn (k : Nat) : (l.rename names).slackColumn k = l.slackColumn k :=
    congrArg (· + k) length
  have artificialColumn (k : Nat) : (l.rename names).artificialColumn k = l.artificialColumn k :=
    congrArg (· + k) (Layout.realCount_rename length)
  induction same generalizing slack artificial with
  | nil => rfl
  | cons first _ ih =>
    rw [startRows, startRows, first.coefficients, first.relation, first.rhs]
    simp only [ih, slackColumn, artificialColumn]
    rfl

namespace Problem

variable {p q : Problem α} (same : p.SameNumbers q)

include same

theorem SameNumbers.normalized : List.Forall₂ Constraint.SameNumbers
    (p.constraints.map Constraint.normalize) (q.constraints.map Constraint.normalize) :=
  List.forall₂_map_left_iff.mpr (List.forall₂_map_right_iff.mpr
    (same.constraints.imp fun _ _ alike => alike.normalize))

theorem SameNumbers.layout_eq : q.layout = p.layout.rename q.names := by
  have relations : q.constraints.map (fun c => c.normalize.relation) =
      p.constraints.map (fun c => c.normalize.relation) := by
    rw [← List.forall₂_eq_eq_eq, List.forall₂_map_left_iff, List.forall₂_map_right_iff]
    exact same.constraints.flip.imp fun _ _ alike => alike.normalize.relation
  unfold layout Layout.rename
  rw [relations]

/-- The starting tableaux differ only in the names of the decision variables. -/
theorem SameNumbers.ofProblem_eq (length : q.names.length = p.names.length) :
    Tableau.ofProblem q = (Tableau.ofProblem p).rename q.names := by
  have rows := Tableau.startRows_rename (l := p.layout) length same.normalized 0 0
  unfold Tableau.ofProblem Tableau.rename
  rw [same.layout_eq, rows, same.objective]
  rfl

end Problem

/-! ## Records -/

namespace Step

theorem renames {t u : Tableau α} {names : List String} (form : t.FormOf u)
    (length : names.length = t.layout.names.length) (k : Nat) (e : Event α) :
    Step.Renames (t.layout.translate (t.layout.rename names)) ⟨k, e, u⟩
      ⟨k, e.rename (t.layout.translate (t.layout.rename names)), u.rename names⟩ := by
  have distinct := form.legible.labels
  have length' : names.length = u.layout.names.length := form.layout ▸ length
  rw [← form.layout]
  refine ⟨rfl, rfl, rfl, Layout.labels_rename length' distinct, ?_⟩
  show u.rows.map (fun r => (u.layout.rename names).label r.basic) ++ [objectiveLabel] =
    (u.rows.map (fun r => u.layout.label r.basic) ++ [objectiveLabel]).map _
  rw [List.map_append, List.map_map, List.map_singleton,
    Layout.translate_objectiveLabel length' distinct]
  refine congrArg (· ++ [objectiveLabel]) (List.map_congr_left fun r mem => ?_)
  exact (Layout.translate_label distinct _ (form.legible.inside r mem)).symm

omit [Scalar α] in
/-- Two records of which one is a change of the other are alike if all moments are. -/
theorem forall₂_ofMoments {R : Step α → Step α → Prop} {change : Moment α → Moment α}
    {ms : List (Moment α)}
    (alike : ∀ k, ∀ m ∈ ms, R ⟨k, m.event, m.tableau⟩ ⟨k, (change m).event, (change m).tableau⟩) :
    List.Forall₂ R (ofMoments ms) (ofMoments (ms.map change)) := by
  refine List.forall₂_iff_get.mpr ⟨by simp, fun k k_lt _ => ?_⟩
  have inside : k < ms.length := by simpa using k_lt
  simpa [ofMoments] using alike (k + 1) ms[k] (List.getElem_mem inside)

end Step

namespace Solver

variable {s : Solver α} {p q : Problem α}

theorem moments_rename {t : Tableau α} {names : List String} (legible : t.Legible)
    (length : names.length = t.layout.names.length) (objective : q.objective = p.objective) :
    s.moments q (t.rename names) = (s.moments p t).map
      (Moment.rename (t.layout.translate (t.layout.rename names)) names) := by
  unfold moments
  rw [trail_rename legible length, solution_rename objective, List.map_append]
  rfl

/-- Two accepted problems with the same numbers get reports of the same numbers, in which names
correspond as the labels of the two layouts do.  This also holds where rows refer to columns by
name. -/
theorem solve_renamed (same : p.SameNumbers q) (valid : p.validate s.twoPhase = .ok ())
    (valid' : q.validate s.twoPhase = .ok ()) :
    ∃ r r', s.solve p = .ok r ∧ s.solve q = .ok r' ∧
      r.Renames (p.layout.translate q.layout) r' ∧
      ∀ largest, s.maxIterations ≤ largest →
        (s.solve? largest p).run = some (.ok r.onSheets) ∧
        (s.solve? largest q).run = some (.ok r'.onSheets) := by
  have legible := Tableau.legible_ofProblem valid
  have length : q.names.length = p.names.length := by
    rw [← (Problem.wellSized_of_validate valid').objective, same.objective,
      (Problem.wellSized_of_validate valid).objective]
  have solved := s.solve_of_validate valid
  have solved' := s.solve_of_validate valid'
  refine ⟨_, _, solved, solved', ⟨?_, ?_⟩, fun largest bounded => ⟨?_, ?_⟩⟩
  · show s.solution q _ = s.solution p _
    rw [same.ofProblem_eq length, trail_rename legible length, solution_rename same.objective]
  · have forms := ((s.course_moments p (Tableau.ofProblem p)).formOf legible.shaped legible.refl).2
    rw [report_steps, report_steps, same.ofProblem_eq length,
      moments_rename legible length same.objective, same.layout_eq]
    exact Step.forall₂_ofMoments fun k m mem => Step.renames (forms m mem) length k m.event
  · rw [sheet_solve bounded, solved]
    rfl
  · rw [sheet_solve bounded, solved']
    rfl

/-- The floor and the gap under other names, those of the variables exchanged. -/
def exchangedNames : Problem Rat :=
  { names := ["x2", "x1"]
    objective := ⟨[1, 2], .minimize⟩
    constraints := [⟨"gap", [1, 1], .ge, 2⟩, ⟨"", [1, -1], .eq, -1⟩] }

theorem solve_renamed_exchangedNames :
    ∃ r r', (Solver.mk 10 (1 / 10 ^ 9) true).solve floorAndGap = .ok r ∧
      (Solver.mk 10 (1 / 10 ^ 9) true).solve exchangedNames = .ok r' ∧
      r.Renames (floorAndGap.layout.translate exchangedNames.layout) r' ∧
      r'.solution.values = [1 / 2, 3 / 2] ∧
      r.pivots.map (fun p => (p.leaving, p.entering)) = [("a2", "x2"), ("a1", "x1")] ∧
      r'.pivots.map (fun p => (p.leaving, p.entering)) = [("a2", "x1"), ("a1", "x2")] := by
  obtain ⟨r, r', solved, solved', renames, _⟩ :=
    solve_renamed (s := Solver.mk 10 (1 / 10 ^ 9) true) (p := floorAndGap) (q := exchangedNames)
      ⟨rfl, .cons ⟨rfl, rfl, rfl⟩ (.cons ⟨rfl, rfl, rfl⟩ .nil)⟩ rfl rfl
  exact ⟨r, r', solved, solved', renames,
    eq_of_solve (·.solution.values) solved' (by decide +kernel),
    eq_of_solve (·.pivots.map fun p => (p.leaving, p.entering)) solved (by decide +kernel),
    eq_of_solve (·.pivots.map fun p => (p.leaving, p.entering)) solved' (by decide +kernel)⟩

end Solver

end LinearProgram

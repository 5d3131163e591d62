import LinearProgram.Proofs.Course
import LinearProgram.Proofs.DriveOut
import LinearProgram.Proofs.Labels

/-!
# The basis is a basis of unit columns

Every recorded tableau is a vertex: each recorded moment keeps the canonical
form, even where driving out sets a right-hand side to zero and so changes what
the tableau says.  Since the labels of an accepted problem are distinct, this
form can be read off the matrix and the names alone, as a reader of the report
would: `Tableau.UnitBasis` does not mention which column a row is solved for.
-/

namespace LinearProgram

namespace Tableau

/-- The column has a one in this row and a zero in every other one, the objective row included. -/
def IsUnitColumn (t : Tableau Rat) (row column : Nat) : Prop :=
  ∀ k < t.rowCount, t.cell? k column = some (if k = row then 1 else 0)

/-- No name is basic twice, and the columns of the basic names are unit columns. -/
structure UnitBasis (t : Tableau Rat) : Prop where
  distinct : t.basisNames.Nodup
  basic : ∀ i < t.constraintCount, ∃ name c, t.basisNames[i]? = some name ∧
    t.layout.columnOf name = some c ∧ t.IsUnitColumn i c
  objective : ∃ c, t.layout.columnOf objectiveLabel = some c ∧ t.IsUnitColumn t.constraintCount c

variable {t : Tableau Rat} {i : Nat} {r : BasicRow Rat}

theorem isUnitColumn_iff {c : Nat} :
    t.IsUnitColumn i c ↔
      (∀ k < t.constraintCount, t.cell? k c = some (if k = i then 1 else 0)) ∧
        t.cell? t.constraintCount c = some (if t.constraintCount = i then 1 else 0) := by
  unfold IsUnitColumn rowCount
  exact Nat.forall_lt_succ_right

namespace Canonical

variable (canonical : t.Canonical)

include canonical

theorem shaped : t.Shaped := ⟨canonical.solved.width, canonical.objective_width⟩

theorem isUnitColumn_basic (at_i : t.rows[i]? = some r) : t.IsUnitColumn i r.basic := by
  have inside := canonical.solved.inside r (List.mem_of_getElem? at_i)
  have i_lt : i < t.constraintCount := (List.getElem?_eq_some_iff.mp at_i).1
  refine isUnitColumn_iff.mpr ⟨fun k k_lt => ?_, ?_⟩
  · have at_k : t.rows[k]? = some t.rows[k] := List.getElem?_eq_getElem k_lt
    rw [canonical.shaped.cell?_row at_k inside]
    by_cases same : k = i
    · subst same
      cases Option.some.inj (at_k.symm.trans at_i)
      rw [if_pos rfl, canonical.solved.unit _ (List.mem_of_getElem? at_k)]
    · rw [if_neg same, (canonical.solved.apart_of_ne at_k at_i same).1]
  · rw [canonical.shaped.cell?_objective inside, if_neg i_lt.ne',
      canonical.priced r (List.mem_of_getElem? at_i)]

theorem isUnitColumn_mark : t.IsUnitColumn t.constraintCount t.layout.objectiveColumn := by
  refine isUnitColumn_iff.mpr ⟨fun k k_lt => ?_, ?_⟩
  · have at_k : t.rows[k]? = some t.rows[k] := List.getElem?_eq_getElem k_lt
    rw [canonical.shaped.cell?_row_mark at_k, if_neg k_lt.ne,
      canonical.solved.mark _ (List.mem_of_getElem? at_k)]
  · rw [canonical.shaped.cell?_objective_mark, if_pos rfl, canonical.objective_mark]

/-- Two rows with one basic variable would both have a one in its column. -/
theorem nodup_basisNames (labels : t.layout.labels.Nodup) : t.basisNames.Nodup := by
  have solved := canonical.solved
  refine List.nodup_append.mpr ⟨?_, List.nodup_singleton _, ?_⟩
  · refine List.pairwise_map.mpr (solved.apart.imp_of_mem ?_)
    intro r s r_mem s_mem apart same
    have basic : r.basic = s.basic :=
      Layout.label_injOn labels (solved.inside r r_mem) (solved.inside s s_mem) same
    have zero := apart.1
    rw [← basic, solved.unit r r_mem] at zero
    exact one_ne_zero zero
  · intro name mem z z_mem same
    obtain ⟨r, r_mem, rfl⟩ := List.mem_map.mp mem
    rw [List.mem_singleton.mp z_mem] at same
    exact Layout.label_ne_objectiveLabel labels (solved.inside r r_mem) same

/-- With distinct labels, the canonical form can be read off names and matrix. -/
theorem unitBasis (labels : t.layout.labels.Nodup) : t.UnitBasis := by
  refine ⟨canonical.nodup_basisNames labels, fun i i_lt => ?_, ?_⟩
  · have at_i : t.rows[i]? = some t.rows[i] := List.getElem?_eq_getElem i_lt
    have inside := canonical.solved.inside _ (List.mem_of_getElem? at_i)
    exact ⟨_, _, getElem?_basisNames at_i, Layout.columnOf_label labels inside,
      canonical.isUnitColumn_basic at_i⟩
  · exact ⟨_, Layout.columnOf_objectiveLabel labels, canonical.isUnitColumn_mark⟩

end Canonical

end Tableau

/-! ## Every recorded tableau is a vertex -/

variable {s : Solver Rat} {start : Tableau Rat} {a b : Configuration Rat} {m : Moment Rat}

/-- Every transition keeps a vertex, and the one that it records is a vertex, too. -/
theorem Transition.isVertex (nonneg : 0 ≤ s.tolerance)
    (width : start.objective.cells.length = start.layout.width)
    (step : Transition s start a m b)
    (kept : a.tableau.IsVertex ∧ a.tableau.layout = start.layout) :
    (b.tableau.IsVertex ∧ b.tableau.layout = start.layout) ∧
      m.tableau.IsVertex ∧ m.tableau.layout = start.layout := by
  obtain ⟨vertex, layout⟩ := kept
  cases step with
  | start => exact ⟨⟨vertex, layout⟩, vertex, layout⟩
  | finish => exact ⟨⟨vertex, layout⟩, vertex, layout⟩
  | priceArtificials =>
    have priced := vertex.loadObjective (Tableau.length_artificialCosts _)
    exact ⟨⟨priced, layout⟩, priced, layout⟩
  | restoreObjective =>
    have restored := vertex.loadObjective (width.trans (congrArg Layout.width layout.symm))
    exact ⟨⟨restored, layout⟩, restored, layout⟩
  | pivot _ entering leaving =>
    have next := (vertex.pivot (vertex.entering entering).2.1 leaving).1
    exact ⟨⟨next, by simpa using layout⟩, vertex, layout⟩
  | driveOut _ found =>
    exact ⟨⟨vertex.driveOut nonneg found, by simpa using layout⟩, vertex, layout⟩

namespace Solver

variable {p : Problem Rat}

/-- At every step of a report, the names of the basis belong to distinct unit columns, and so does
the label of the objective row. -/
theorem solve_unitBasis (s : Solver Rat) (valid : p.validate s.twoPhase = .ok ())
    (nonneg : 0 ≤ s.tolerance) :
    ∃ r, s.solve p = .ok r ∧ ∀ x ∈ r.steps, x.tableau.UnitBasis := by
  have sized := p.wellSized_of_validate valid
  have start := Tableau.isVertex_ofProblem sized
  refine ⟨_, s.solve_of_validate valid, fun x mem => ?_⟩
  obtain ⟨k, m, at_k, rfl⟩ := Step.mem_ofMoments _ mem
  have course := s.course_moments p (Tableau.ofProblem p)
  obtain ⟨vertex, layout⟩ := (course.forall_mem
    (fun step => step.isVertex nonneg start.canonical.objective_width) ⟨start, rfl⟩).2 m
      (List.mem_of_getElem? at_k)
  refine vertex.canonical.unitBasis ?_
  rw [layout]
  exact p.nodup_labels_of_validate valid

/-- An equation and its mirror image: one of the two artificial variables is driven out, and the
other one stays basic. -/
def mirrored : Problem Rat :=
  { names := ["x1", "x2"]
    objective := ⟨[1, 1], .maximize⟩
    constraints := [⟨"left", [-1, -1], .eq, 0⟩, ⟨"right", [1, 1], .eq, 0⟩] }

theorem solve_unitBasis_mirrored :
    ∃ r, { Solver.default with twoPhase := true }.solve mirrored = .ok r ∧
      (∀ x ∈ r.steps, x.tableau.UnitBasis) ∧
      r.pivots.map (fun p => (p.leaving, p.entering)) = [("a1", "x1")] ∧
      r.finalStep?.map (·.tableau.basisNames) = some ["x1", "a2", "Z"] := by
  obtain ⟨r, solved, bases⟩ :=
    solve_unitBasis { Solver.default with twoPhase := true } (p := mirrored) rfl (by decide +kernel)
  exact ⟨r, solved, bases,
    eq_of_solve (·.pivots.map fun p => (p.leaving, p.entering)) solved (by decide +kernel),
    eq_of_solve (·.finalStep?.map (·.tableau.basisNames)) solved (by decide +kernel)⟩

end Solver

end LinearProgram

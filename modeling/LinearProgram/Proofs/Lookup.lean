import LinearProgram.Proofs.Sheet.Start

/-!
# Columns and rows found by name

`Proofs/Labels.lean` shows that the labels of an accepted problem's tableau are
distinct.  Here the consequences for looking things up are drawn.  A column is
the first one with its label, so looking up a label gives the column back.  A
row is found by the name of its basic variable if no other row has the same
basic variable.  In the starting tableau none has: every constraint takes the
next slack column or the next artificial column, and the two groups do not
meet.

* `Layout.columnOf_label_of_lt`: a column found by its label, the last two included.
* `Tableau.rowOf_of_distinct`: a row found by the name of its basic variable.
* `Tableau.pairwise_basic_startRows`: the basic variables of the starting rows.
-/

namespace LinearProgram

variable {α : Type}

namespace Layout

/-- A column, be it one of variables or not, is found by its label. -/
theorem columnOf_label_of_lt {l : Layout} (distinct : l.labels.Nodup) {c : Nat}
    (inside : c < l.columnCount) : l.columnOf (l.label c) = some c := by
  rw [← length_labels] at inside
  apply columnOf_of_getElem? distinct
  rw [label, List.getD_eq_getElem?_getD, List.getElem?_eq_getElem inside, Option.getD_some]

end Layout

namespace Tableau

/-- If no variable is basic in two rows, a row is found by the name of its basic variable. -/
theorem rowOf_of_distinct {t : Tableau α} (labels : t.layout.labels.Nodup)
    (inside : ∀ r ∈ t.rows, r.basic < t.layout.width)
    (distinct : t.rows.Pairwise fun r q => r.basic ≠ q.basic) {i : Nat} {r : BasicRow α}
    (at_i : t.rows[i]? = some r) : t.rowOf (t.layout.label r.basic) = some i := by
  obtain ⟨i_lt, rfl⟩ := List.getElem?_eq_some_iff.mp at_i
  apply List.findIdx?_eq_some_iff_getElem.mpr
  refine ⟨i_lt, beq_self_eq_true _, fun k before => ?_⟩
  have k_lt := before.trans i_lt
  have apart := List.pairwise_iff_getElem.mp distinct k i k_lt i_lt before
  intro same
  apply apart
  apply Layout.label_injOn labels
  · exact inside _ (List.getElem_mem k_lt)
  · exact inside _ (List.getElem_mem i_lt)
  · exact eq_of_beq same

variable [Scalar α]

/-- A starting row takes the first slack column or the first artificial column that is left, or a
later one. -/
theorem basic_startRows_cases {l : Layout} {slack artificial : Nat}
    {constraints : List (Constraint α)} (fits : Fits l slack artificial constraints) :
    ∀ r ∈ startRows l slack artificial constraints,
      (∃ s, slack ≤ s ∧ s < l.slacks ∧ r.basic = l.slackColumn s) ∨
        ∃ a, artificial ≤ a ∧ r.basic = l.artificialColumn a := by
  induction constraints generalizing slack artificial with
  | nil => exact fun r mem => absurd mem List.not_mem_nil
  | cons c rest ih =>
    intro r mem
    rw [startRows_cons_eq_append] at mem
    rcases List.mem_append.mp mem with first | later
    · have room := fits.head.head_slack
      obtain ⟨name, coefficients, relation, rhs⟩ := c
      cases relation with
      | le =>
        cases List.mem_singleton.mp first
        exact Or.inl ⟨slack, le_rfl, room, rfl⟩
      | ge | eq =>
        cases List.mem_singleton.mp first
        exact Or.inr ⟨artificial, le_rfl, rfl⟩
    · rcases ih fits.tail r later with ⟨s, above, below, column⟩ | ⟨a, above, column⟩
      · exact Or.inl ⟨s, (Nat.le_add_right _ _).trans above, below, column⟩
      · exact Or.inr ⟨a, (Nat.le_add_right _ _).trans above, column⟩

/-- No two starting rows have the same basic variable, since each takes a column that the rows
before it have left. -/
theorem pairwise_basic_startRows {l : Layout} {slack artificial : Nat}
    {constraints : List (Constraint α)} (fits : Fits l slack artificial constraints) :
    (startRows l slack artificial constraints).Pairwise fun r q => r.basic ≠ q.basic := by
  induction constraints generalizing slack artificial with
  | nil => exact .nil
  | cons c rest ih =>
    have later := basic_startRows_cases fits.tail
    have room := fits.head.head_slack
    have rest_distinct := ih fits.tail
    obtain ⟨name, coefficients, relation, rhs⟩ := c
    -- The column that the first row takes lies before all columns of its group that come later,
    -- and the slack columns lie before the artificial ones.
    cases relation with
    | le =>
      refine .cons (fun q mem => ?_) rest_distinct
      rcases later q mem with ⟨s, above, below, column⟩ | ⟨a, above, column⟩
      · rw [column]
        simp only [Layout.slackColumn, Relation.slackUse] at above ⊢
        omega
      · rw [column]
        simp only [Layout.slackColumn, Layout.artificialColumn, Layout.realCount,
          Relation.slackUse] at room ⊢
        omega
    | ge | eq =>
      refine .cons (fun q mem => ?_) rest_distinct
      rcases later q mem with ⟨s, above, below, column⟩ | ⟨a, above, column⟩
      · rw [column]
        simp only [Layout.slackColumn, Layout.artificialColumn, Layout.realCount]
        omega
      · rw [column]
        simp only [Layout.artificialColumn, Relation.artificialUse] at above ⊢
        omega

end Tableau

namespace Problem

variable [Scalar α]

/-- In the starting tableau of an accepted problem all labels are distinct, those of the problem's
variables and those of the generated columns.  So every column is found by its label, and every
constraint row by the name of its basic variable. -/
theorem tableau_findsNames {p : Problem α} {twoPhase : Bool}
    (valid : p.validate twoPhase = .ok ()) :
    ∃ t, p.tableau twoPhase = .ok t ∧
      t.layout.labels = p.names ++
        (List.range t.layout.slacks).map (fun k => "s" ++ toString (k + 1)) ++
        (List.range t.layout.artificials).map (fun k => "a" ++ toString (k + 1)) ++ ["Z", "RHS"] ∧
      t.layout.labels.Nodup ∧
      (∀ c < t.layout.columnCount, t.layout.columnOf (t.layout.label c) = some c) ∧
      ∀ i < t.constraintCount, ∃ name, t.basisNames[i]? = some name ∧ t.rowOf name = some i := by
  have labels := p.nodup_labels_of_validate valid
  have fits := (p.wellSized_of_validate valid).fits
  have start : p.tableau twoPhase = .ok (Tableau.ofProblem p) := by
    unfold tableau
    rw [valid]
    rfl
  refine ⟨_, start, rfl, labels, fun c inside => Layout.columnOf_label_of_lt labels inside,
    fun i i_lt => ?_⟩
  have at_i : (Tableau.ofProblem p).rows[i]? = some (Tableau.ofProblem p).rows[i] :=
    List.getElem?_eq_getElem i_lt
  refine ⟨_, Tableau.getElem?_basisNames at_i, ?_⟩
  exact Tableau.rowOf_of_distinct labels (Tableau.basic_startRows_lt fits)
    (Tableau.pairwise_basic_startRows fits) at_i

/-- Names that come close to those of generated columns, and a constraint of each kind. -/
def nearlyReserved : Problem Rat :=
  { names := ["a", "s1b", "A1", "sa1"]
    objective := ⟨[1, 2, 3, 4], .minimize⟩
    constraints := [⟨"floor", [1, 1, 0, 0], .ge, 2⟩, ⟨"cap", [0, 1, 1, 0], .le, 5⟩,
      ⟨"recipe", [0, 0, 1, -1], .eq, 1⟩, ⟨"turned", [-1, 0, 0, 0], .le, -1⟩] }

theorem tableau_findsNames_nearlyReserved :
    ∃ t, nearlyReserved.tableau true = .ok t ∧ t.layout.labels.Nodup ∧
      t.layout.labels =
        ["a", "s1b", "A1", "sa1", "s1", "s2", "s3", "a1", "a2", "a3", "Z", "RHS"] ∧
      t.basisNames = ["a1", "s2", "a2", "a3", "Z"] ∧ t.rowOf "a2" = some 2 := by
  have valid : nearlyReserved.validate true = .ok () := rfl
  obtain ⟨t, start, _, labels, _, rows⟩ := tableau_findsNames valid
  cases start
  obtain ⟨name, at_two, found⟩ := rows 2 (by decide)
  have names : (Tableau.ofProblem nearlyReserved).basisNames = ["a1", "s2", "a2", "a3", "Z"] := by
    decide +kernel
  rw [names] at at_two
  cases at_two
  exact ⟨_, rfl, labels, by decide +kernel, names, found⟩

end Problem

end LinearProgram

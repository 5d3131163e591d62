import LinearProgram.Proofs.Encoding
import LinearProgram.Proofs.UnitBasis

/-!
# What a starting tableau says

A starting tableau is read here as a system of equations, by someone who knows
the problem and not how the tableau was built.  Its constraint rows have the
same solutions as the constraints: what a constraint leaves is the value of its
slack or surplus variable, and the artificial variables are zero.  Each of these
columns belongs to one row, although a running count hands them out and every
relation moves the two counts differently.

* `Tableau.countP_startRows`: one count for both groups of columns.
* `Problem.holdsAt_iff_exists_slacks`: the solutions on both sides.
* `Problem.holdsAt_objective_iff`: what the objective row says.
-/

namespace LinearProgram

/-- The point with these decision variables and slack variables, and with artificial variables at
zero. -/
def Layout.assemble (l : Layout) (x slacks : Point) : Point := fun j =>
  if j < l.decisionCount then x j
  else if j < l.realCount then slacks (j - l.decisionCount)
  else 0

/-- A row holds as an equation for the variables and for what the marked column stands for. -/
def Row.HoldsAt (r : Row Rat) (y : Point) (z : Rat) : Prop := dot r.cells y + r.mark * z = r.rhs

/-- One row has an entry in the column that is not zero, and only one, the objective row
included. -/
def Tableau.UsedOnce (t : Tableau Rat) (c : Nat) : Prop :=
  (t.allRows.countP fun r => r.entry c ≠ 0) = 1

/-! ## Columns that belong to one row -/

namespace Relation

theorem slackSign_ne_zero_iff (r : Relation) : r.slackSign ≠ 0 ↔ r.slackUse = 1 := by
  cases r <;> simp [slackSign, slackUse]

theorem artificialSign_ne_zero_iff (r : Relation) : r.artificialSign ≠ 0 ↔ r.artificialUse = 1 := by
  cases r <;> simp [artificialSign, artificialUse]

end Relation

namespace Problem

variable {α : Type} [Scalar α] (p : Problem α)

theorem slacks_layout : p.layout.slacks = slackTotal (p.constraints.map Constraint.normalize) := by
  rw [← countP_slack, List.map_map]
  rfl

theorem artificials_layout :
    p.layout.artificials = artificialTotal (p.constraints.map Constraint.normalize) := by
  rw [← countP_artificial, List.map_map]
  rfl

end Problem

namespace Tableau

/-- If a row has a property exactly when it takes the column at position `k` of a group, one of the
starting rows has it, provided that the group gets so far.  The group is given by how many of its
columns are taken before a row, and how many a relation takes. -/
theorem countP_startRows {l : Layout} {P : BasicRow Rat → Bool} (taken : Nat → Nat → Nat)
    (use : Relation → Nat) {k : Nat} (use_le : ∀ r, use r ≤ 1)
    (next : ∀ s a (r : Relation), taken (s + r.slackUse) (a + r.artificialUse) = taken s a + use r)
    (takes : ∀ {s a : Nat} {c : Constraint Rat}, Fits l s a [c] →
      (P (startRow l s a c) = true ↔ taken s a = k ∧ use c.relation = 1))
    {constraints : List (Constraint Rat)} {slack artificial : Nat}
    (fits : Fits l slack artificial constraints) :
    (startRows l slack artificial constraints).countP P =
      if taken slack artificial ≤ k ∧
          k < taken slack artificial + (constraints.map fun c => use c.relation).sum
      then 1 else 0 := by
  induction constraints generalizing slack artificial with
  | nil =>
    rw [if_neg (by simp)]
    rfl
  | cons c rest ih =>
    have one := use_le c.relation
    rw [startRows_cons, List.countP_cons, ih fits.tail, next, List.map_cons, List.sum_cons]
    simp only [takes fits.head]
    -- Once a row has taken the column, the count is past it for all later rows.
    split_ifs <;> omega

section UsedOnce

variable {p : Problem Rat} (sized : p.WellSized) {k : Nat}

include sized

/-- Only constraint rows use the columns beyond the decision variables. -/
theorem usedOnce_ofProblem_iff {c : Nat} (beyond : p.layout.decisionCount ≤ c) :
    (ofProblem p).UsedOnce c ↔
      ((ofProblem p).rows.countP fun r => r.row.entry c ≠ 0) = 1 := by
  have cost : (ofProblem p).objective.entry c = 0 :=
    entry_startObjective_of_le (sized.objective.trans_le beyond)
  unfold UsedOnce allRows
  rw [List.countP_append, List.countP_map, List.countP_singleton]
  simp [cost, Function.comp_def]

theorem usedOnce_slackColumn (inside : k < p.layout.slacks) :
    (ofProblem p).UsedOnce (p.layout.slackColumn k) := by
  have beyond : p.layout.decisionCount ≤ p.layout.slackColumn k := Nat.le_add_right _ _
  refine (usedOnce_ofProblem_iff sized beyond).mpr ?_
  refine (countP_startRows (P := fun r => r.row.entry (p.layout.slackColumn k) ≠ 0)
    (fun s _ => s) Relation.slackUse (k := k) (fun r => by cases r <;> decide)
    (fun _ _ _ => rfl) (fun {s a c} fits => ?_) sized.fits).trans (if_pos ⟨k.zero_le, ?_⟩)
  · rw [decide_eq_true_iff, entry_startRow_slack fits inside, ite_ne_right_iff, eq_comm,
      Relation.slackSign_ne_zero_iff]
  · rw [Nat.zero_add]
    exact inside.trans_eq p.slacks_layout

theorem usedOnce_artificialColumn (inside : k < p.layout.artificials) :
    (ofProblem p).UsedOnce (p.layout.artificialColumn k) := by
  have beyond : p.layout.decisionCount ≤ p.layout.artificialColumn k :=
    (Nat.le_add_right _ _).trans (Nat.le_add_right _ _)
  refine (usedOnce_ofProblem_iff sized beyond).mpr ?_
  refine (countP_startRows (P := fun r => r.row.entry (p.layout.artificialColumn k) ≠ 0)
    (fun _ a => a) Relation.artificialUse (k := k) (fun r => by cases r <;> decide)
    (fun _ _ _ => rfl) (fun {s a c} fits => ?_) sized.fits).trans (if_pos ⟨k.zero_le, ?_⟩)
  · rw [decide_eq_true_iff, entry_startRow_artificial fits inside, ite_ne_right_iff, eq_comm,
      Relation.artificialSign_ne_zero_iff]
  · rw [Nat.zero_add]
    exact inside.trans_eq p.artificials_layout

/-- Every slack, surplus and artificial column is used by one row. -/
theorem usedOnce_ofProblem {c : Nat} (beyond : p.layout.decisionCount ≤ c)
    (inside : c < p.layout.width) : (ofProblem p).UsedOnce c := by
  rcases Nat.lt_or_ge c p.layout.realCount with real | artificial
  · obtain ⟨k, rfl⟩ := Nat.exists_eq_add_of_le beyond
    exact usedOnce_slackColumn sized (Nat.lt_of_add_lt_add_left real)
  · obtain ⟨k, rfl⟩ := Nat.exists_eq_add_of_le artificial
    exact usedOnce_artificialColumn sized (Nat.lt_of_add_lt_add_left inside)

end UsedOnce

end Tableau

/-! ## Solutions -/

theorem Constraint.holdsAt_congr {c : Constraint Rat} {x y : Point}
    (agree : ∀ j < c.coefficients.length, x j = y j) : c.HoldsAt x ↔ c.HoldsAt y := by
  unfold HoldsAt
  rw [dot_congr agree]

namespace Layout

variable (l : Layout) (x slacks : Point)

theorem assemble_of_lt {j : Nat} (inside : j < l.decisionCount) : l.assemble x slacks j = x j :=
  if_pos inside

theorem assemble_artificial (k : Nat) : l.assemble x slacks (l.artificialColumn k) = 0 := by
  have real : l.realCount ≤ l.artificialColumn k := Nat.le_add_right _ _
  have decision : l.decisionCount ≤ l.artificialColumn k := (Nat.le_add_right _ _).trans real
  unfold assemble
  rw [if_neg decision.not_gt, if_neg real.not_gt]

variable {l x slacks}

theorem assemble_nonneg (x_nonneg : ∀ j < l.decisionCount, 0 ≤ x j)
    (slacks_nonneg : ∀ k < l.slacks, 0 ≤ slacks k) (j : Nat) : 0 ≤ l.assemble x slacks j := by
  unfold assemble
  split
  · next decision => exact x_nonneg j decision
  · split
    · next real => exact slacks_nonneg _ (Nat.sub_lt_left_of_lt_add (by omega) real)
    · exact le_rfl

end Layout

namespace Problem

variable {p : Problem Rat}

/-- The slack and surplus variables of a point of the problem are what its constraints leave. -/
theorem extend_eq_assemble (p : Problem Rat) (x : Point) :
    p.extend x = p.layout.assemble x
      fun k => (margins (p.constraints.map Constraint.normalize) x).getD k 0 := by
  funext j
  unfold extend Layout.assemble
  split
  · rfl
  · split
    · rfl
    · next beyond =>
      refine List.getD_eq_default _ _ ?_
      rw [length_margins, ← slacks_layout]
      have real : p.layout.realCount = p.layout.decisionCount + p.layout.slacks := rfl
      omega

/-- A point that is not negative satisfies the constraints exactly if slack and surplus variables
complete it to a solution of the starting equations. -/
theorem holdsAt_iff_exists_slacks (sized : p.WellSized) {x : Point}
    (nonneg : ∀ j < p.variableCount, 0 ≤ x j) :
    (∀ c ∈ p.constraints, c.HoldsAt x) ↔
      ∃ slacks : Point, (∀ k < p.layout.slacks, 0 ≤ slacks k) ∧
        (Tableau.ofProblem p).SatisfiedBy (p.layout.assemble x slacks) := by
  have count : p.variableCount = p.layout.decisionCount := sized.objective
  constructor
  · intro holds
    have feasible : p.Feasible x := ⟨nonneg, holds⟩
    refine ⟨_, fun k _ => ?_, p.extend_eq_assemble x ▸ satisfiedBy_extend sized feasible⟩
    exact extend_slack p x k ▸ extend_nonneg sized feasible (p.layout.slackColumn k)
  · rintro ⟨slacks, slacks_nonneg, satisfied⟩ c mem
    have feasible := feasible_of_satisfiedBy sized
      (fun j _ => Layout.assemble_nonneg (count ▸ nonneg) slacks_nonneg j) satisfied
      fun k _ => Layout.assemble_artificial _ x slacks k
    refine (Constraint.holdsAt_congr fun j inside => ?_).mp (feasible.2 c mem)
    exact Layout.assemble_of_lt _ x slacks (inside.trans_eq (sized.constraints c mem))

theorem holdsAt_objective_iff (p : Problem Rat) (y : Point) (z : Rat) :
    (Tableau.ofProblem p).objective.HoldsAt y z ↔ z = p.gainAt y := by
  have row : (Tableau.ofProblem p).objective.HoldsAt y z ↔
      dot (Tableau.ofProblem p).objective.cells y + 1 * z = 0 := Iff.rfl
  have gain : 0 - dot (Tableau.ofProblem p).objective.cells y = p.gainAt y :=
    gap_objective_ofProblem p y
  rw [row, ← gain, one_mul, zero_sub]
  exact add_eq_zero_iff_neg_eq.trans eq_comm

/-- An accepted problem gets a starting tableau, which says what the problem says.  Points that are
not negative satisfy the constraints exactly if slack and surplus variables can be found for the
constraint rows with artificial variables at zero.  No right-hand side is negative, the names of the
basis belong to unit columns, every column beyond the decision variables is used by one row, and the
objective row says that the marked column stands for the objective, with its sign turned for
minimisation. -/
theorem tableau_encodes {twoPhase : Bool} (valid : p.validate twoPhase = .ok ()) :
    ∃ t, p.tableau twoPhase = .ok t ∧ t.constraintCount = p.constraintCount ∧
      (∀ x : Point, (∀ j < p.variableCount, 0 ≤ x j) →
        ((∀ c ∈ p.constraints, c.HoldsAt x) ↔
          ∃ slacks : Point, (∀ k < t.layout.slacks, 0 ≤ slacks k) ∧
            t.SatisfiedBy (t.layout.assemble x slacks))) ∧
      (∀ r ∈ t.rows, 0 ≤ r.row.rhs) ∧ t.UnitBasis ∧
      (∀ c, p.variableCount ≤ c → c < t.layout.width → t.UsedOnce c) ∧
      ∀ y z, t.objective.HoldsAt y z ↔
        z = match p.objective.sense with
          | .maximize => dot p.objective.coefficients y
          | .minimize => -dot p.objective.coefficients y := by
  have sized := p.wellSized_of_validate valid
  have vertex := Tableau.isVertex_ofProblem sized
  have count : p.variableCount = p.layout.decisionCount := sized.objective
  have built : p.tableau twoPhase = .ok (Tableau.ofProblem p) := by
    unfold tableau
    rw [valid]
    rfl
  refine ⟨_, built, Tableau.length_rows_ofProblem p,
    fun x nonneg => holdsAt_iff_exists_slacks sized nonneg, vertex.feasible,
    vertex.canonical.unitBasis (p.nodup_labels_of_validate valid), fun c beyond inside => ?_,
    holdsAt_objective_iff p⟩
  exact Tableau.usedOnce_ofProblem sized (count ▸ beyond) inside

/-- All three relations, one of them turned round for its negative right-hand side. -/
def blend : Problem Rat :=
  { names := ["x1", "x2"]
    objective := ⟨[2, 3], .minimize⟩
    constraints := [⟨"amount", [-1, -1], .le, -2⟩, ⟨"cap", [1, 0], .le, 4⟩,
      ⟨"parts", [1, -1], .eq, 0⟩, ⟨"second", [0, 1], .ge, 0⟩] }

theorem tableau_encodes_blend :
    ∃ t slacks, blend.validate true = .ok () ∧ blend.tableau true = .ok t ∧
      (∀ k < t.layout.slacks, 0 ≤ slacks k) ∧
      t.SatisfiedBy (t.layout.assemble (fun _ => 1) slacks) ∧
      t.basisNames = ["a1", "s2", "a2", "a3", "Z"] ∧ t.UsedOnce 4 ∧ t.UsedOnce 5 ∧
      ∀ y z, t.objective.HoldsAt y z ↔ z = -dot [2, 3] y := by
  have valid : blend.validate true = .ok () := rfl
  obtain ⟨t, built, _, solutions, _, _, used, objective⟩ := tableau_encodes valid
  have ones : ∀ c ∈ blend.constraints, c.HoldsAt fun _ => 1 := by
    norm_num [blend, Constraint.HoldsAt]
  obtain ⟨slacks, nonneg, satisfied⟩ := (solutions (fun _ => 1) fun _ _ => zero_le_one).mp ones
  cases built
  exact ⟨_, slacks, valid, rfl, nonneg, satisfied, by decide +kernel,
    used 4 (by decide) (by decide), used 5 (by decide) (by decide), objective⟩

end Problem

end LinearProgram

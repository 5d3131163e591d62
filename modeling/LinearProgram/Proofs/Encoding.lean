import LinearProgram.Proofs.Start

/-!
# Points of a problem and points of its starting tableau

A feasible point of a problem extends to a point of the starting tableau: every
slack or surplus variable takes what its constraint leaves, and the artificial
variables stay at zero.  The other way round, a point of the starting tableau
that is not negative and has zero artificial variables is feasible as it stands.
The starting objective row gives every point its gain.
-/

namespace LinearProgram

/-- The sum of the artificial variables of a point. -/
def Layout.artificialSum (l : Layout) (y : Point) : Rat :=
  ∑ k ∈ Finset.range l.artificials, y (l.artificialColumn k)

/-- What a constraint leaves to its slack or surplus variable, if it has one. -/
def Constraint.margin? (c : Constraint Rat) (x : Point) : Option Rat :=
  match c.relation with
  | .le => some (c.rhs - dot c.coefficients x)
  | .ge => some (dot c.coefficients x - c.rhs)
  | .eq => none

/-- What constraints leave to their slack and surplus variables, in the order of these. -/
def margins (constraints : List (Constraint Rat)) (x : Point) : List Rat :=
  constraints.filterMap fun c => c.margin? x

theorem length_margins (constraints : List (Constraint Rat)) (x : Point) :
    (margins constraints x).length = slackTotal constraints := by
  induction constraints with
  | nil => rfl
  | cons c rest ih =>
    unfold margins slackTotal at ih ⊢
    rw [List.filterMap_cons, List.map_cons, List.sum_cons]
    obtain ⟨name, coefficients, relation, rhs⟩ := c
    cases relation with
    | le => exact (congrArg Nat.succ ih).trans (Nat.add_comm _ 1)
    | ge => exact (congrArg Nat.succ ih).trans (Nat.add_comm _ 1)
    | eq => exact ih.trans (Nat.zero_add _).symm

theorem margins_nonneg {constraints : List (Constraint Rat)} {x : Point}
    (holds : ∀ c ∈ constraints, c.HoldsAt x) : ∀ m ∈ margins constraints x, 0 ≤ m := by
  intro m mem
  obtain ⟨c, c_mem, some_m⟩ := List.mem_filterMap.mp mem
  have holds_c := holds c c_mem
  obtain ⟨name, coefficients, relation, rhs⟩ := c
  cases relation with
  | le =>
    cases some_m
    exact sub_nonneg.mpr holds_c
  | ge =>
    cases some_m
    exact sub_nonneg.mpr holds_c
  | eq => cases some_m

namespace Tableau

/-- A point whose slack and surplus variables take what the constraints leave, and whose
artificial variables are zero, satisfies the rows of these constraints. -/
theorem gap_startRows_of_margins {l : Layout} {x y : Point} (artificial_zero :
      ∀ k, y (l.artificialColumn k) = 0) (agree : ∀ j < l.decisionCount, y j = x j)
    {constraints : List (Constraint Rat)} {slack artificial : Nat}
    (fits : Fits l slack artificial constraints) (holds : ∀ c ∈ constraints, c.HoldsAt x)
    (slacks : ∀ k, y (l.slackColumn (slack + k)) = (margins constraints x).getD k 0) :
    ∀ r ∈ startRows l slack artificial constraints, r.row.gap y = 0 := by
  induction constraints generalizing slack artificial with
  | nil => exact fun r mem => absurd mem List.not_mem_nil
  | cons c rest ih =>
    have form : dot c.coefficients y = dot c.coefficients x :=
      dot_congr fun j inside => agree j (fits.head.head_width ▸ inside)
    have rest_holds : ∀ d ∈ rest, d.HoldsAt x := fun d mem => holds d (List.mem_cons_of_mem c mem)
    have holds_c := holds c List.mem_cons_self
    have rest_fits := fits.tail
    have first := gap_startRow fits.head y
    rw [form, artificial_zero, mul_zero, add_zero] at first
    rw [startRows_cons]
    refine List.forall_mem_cons.mpr ?_
    obtain ⟨name, coefficients, relation, rhs⟩ := c
    cases relation with
    | le =>
      have own : y (l.slackColumn slack) = rhs - dot coefficients x := slacks 0
      refine ⟨?_, ih rest_fits rest_holds fun k => ?_⟩
      · dsimp only [Relation.slackSign] at first
        rw [first, own]
        ring
      · have shifted := slacks (1 + k)
        rw [← Nat.add_assoc, Nat.add_comm 1 k] at shifted
        exact shifted
    | ge =>
      have own : y (l.slackColumn slack) = dot coefficients x - rhs := slacks 0
      refine ⟨?_, ih rest_fits rest_holds fun k => ?_⟩
      · dsimp only [Relation.slackSign] at first
        rw [first, own]
        ring
      · have shifted := slacks (1 + k)
        rw [← Nat.add_assoc, Nat.add_comm 1 k] at shifted
        exact shifted
    | eq =>
      have equation : dot coefficients x = rhs := holds_c
      refine ⟨?_, ih rest_fits rest_holds slacks⟩
      dsimp only [Relation.slackSign] at first
      rw [first, equation]
      ring

end Tableau

namespace Problem

variable {p : Problem Rat}

/-- The point of the starting tableau that belongs to a point of the problem. -/
def extend (p : Problem Rat) (x : Point) : Point := fun j =>
  if j < p.layout.decisionCount then x j
  else (margins (p.constraints.map Constraint.normalize) x).getD (j - p.layout.decisionCount) 0

theorem extend_of_lt {j : Nat} (inside : j < p.layout.decisionCount) (x : Point) :
    p.extend x j = x j :=
  if_pos inside

theorem extend_slack (p : Problem Rat) (x : Point) (k : Nat) :
    p.extend x (p.layout.slackColumn k) =
      (margins (p.constraints.map Constraint.normalize) x).getD k 0 := by
  unfold extend Layout.slackColumn
  rw [if_neg (Nat.not_lt.mpr (Nat.le_add_right _ _)), Nat.add_sub_cancel_left]

theorem extend_artificial (sized : p.WellSized) (x : Point) (k : Nat) :
    p.extend x (p.layout.artificialColumn k) = 0 := by
  have column : p.layout.artificialColumn k = p.layout.slackColumn (p.layout.slacks + k) :=
    Nat.add_assoc _ _ _
  rw [column, extend_slack]
  refine List.getD_eq_default _ _ ?_
  rw [length_margins]
  have room := sized.fits.slack
  omega

theorem Feasible.normalized {x : Point} (feasible : p.Feasible x) :
    ∀ c ∈ p.constraints.map Constraint.normalize, c.HoldsAt x := by
  intro c mem
  obtain ⟨d, d_mem, rfl⟩ := List.mem_map.mp mem
  exact (d.normalize_holdsAt_iff x).mpr (feasible.2 d d_mem)

theorem extend_nonneg {x : Point} (sized : p.WellSized) (feasible : p.Feasible x) (j : Nat) :
    0 ≤ p.extend x j := by
  have count : p.variableCount = p.layout.decisionCount := sized.objective
  unfold extend
  split
  · next inside => exact feasible.1 j (count ▸ inside)
  · have nonneg := margins_nonneg feasible.normalized
    rw [List.getD_eq_getElem?_getD]
    cases found : (margins (p.constraints.map Constraint.normalize) x)[
        j - p.layout.decisionCount]? with
    | none => exact le_rfl
    | some m => exact nonneg m (List.mem_of_getElem? found)

/-- A feasible point extends to a solution of the starting equations. -/
theorem satisfiedBy_extend {x : Point} (sized : p.WellSized) (feasible : p.Feasible x) :
    (Tableau.ofProblem p).SatisfiedBy (p.extend x) := by
  refine (Tableau.satisfiedBy_iff_gap _ _).mpr ?_
  refine Tableau.gap_startRows_of_margins (extend_artificial sized x)
    (fun j inside => extend_of_lt inside x) sized.fits feasible.normalized fun k => ?_
  rw [Nat.zero_add]
  exact extend_slack p x k

theorem artificialSum_extend (sized : p.WellSized) (x : Point) :
    p.layout.artificialSum (p.extend x) = 0 :=
  Finset.sum_eq_zero fun k _ => extend_artificial sized x k

/-- A solution of the starting equations that is not negative and has no artificial part is
feasible. -/
theorem feasible_of_satisfiedBy {y : Point} (sized : p.WellSized)
    (nonneg : ∀ j < p.layout.width, 0 ≤ y j)
    (satisfied : (Tableau.ofProblem p).SatisfiedBy y)
    (artificial_zero : ∀ k < p.layout.artificials, y (p.layout.artificialColumn k) = 0) :
    p.Feasible y := by
  have count : p.variableCount = p.layout.decisionCount := sized.objective
  have width : p.layout.width =
      p.layout.decisionCount + p.layout.slacks + p.layout.artificials := rfl
  refine ⟨fun j inside => nonneg j (by omega), fun c mem => ?_⟩
  refine (c.normalize_holdsAt_iff y).mp ?_
  obtain ⟨s, a, fits, row_mem⟩ := Tableau.exists_startRow sized.fits
    (List.mem_map_of_mem (f := Constraint.normalize) mem)
  have zero := (Tableau.satisfiedBy_iff_gap _ _).mp satisfied _ row_mem
  rw [Tableau.gap_startRow fits] at zero
  have slack_room := fits.head_slack
  have artificial_room := fits.head_artificial
  have column : p.layout.slackColumn s = p.layout.decisionCount + s := rfl
  generalize c.normalize = d at *
  obtain ⟨name, coefficients, relation, rhs⟩ := d
  cases relation with
  | le =>
    have room : s + 1 ≤ p.layout.slacks := slack_room
    have slack := nonneg (p.layout.slackColumn s) (by omega)
    rw [Relation.slackSign, Relation.artificialSign] at zero
    show dot coefficients y ≤ rhs
    linarith
  | ge =>
    have room : s + 1 ≤ p.layout.slacks := slack_room
    have slack := nonneg (p.layout.slackColumn s) (by omega)
    rw [artificial_zero a artificial_room, Relation.slackSign] at zero
    show rhs ≤ dot coefficients y
    linarith
  | eq =>
    rw [artificial_zero a artificial_room, Relation.slackSign] at zero
    show dot coefficients y = rhs
    linarith

/-! ## The objective -/

/-- The starting objective row gives a point the gain of its decision variables. -/
theorem gap_objective_ofProblem (p : Problem Rat) (y : Point) :
    (Tableau.ofProblem p).objective.gap y = p.gainAt y := by
  have start : (Tableau.ofProblem p).objective.gap y =
      0 - dot (Tableau.startCosts p.objective ++ zeros p.layout.slacks ++
        zeros p.layout.artificials) y := rfl
  rw [start, dot_append, dot_append, dot_zeros, dot_zeros, add_zero, add_zero, zero_sub]
  unfold gainAt valueAt Tableau.startCosts
  cases p.objective.sense with
  | maximize => rw [dot_map_neg, neg_neg]
  | minimize => rfl

theorem gainAt_extend (sized : p.WellSized) (x : Point) : p.gainAt (p.extend x) = p.gainAt x := by
  have count : p.objective.coefficients.length = p.layout.decisionCount := sized.objective
  have same : p.valueAt (p.extend x) = p.valueAt x :=
    dot_congr fun j inside => extend_of_lt (count ▸ inside) x
  unfold gainAt
  rw [same]

end Problem

end LinearProgram

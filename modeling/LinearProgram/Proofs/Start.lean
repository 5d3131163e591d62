import LinearProgram.Proofs.Pivot

/-!
# The starting tableau

Each constraint, once its right-hand side is not negative, gives one row.  The
three relations differ only in which columns they take and with which sign:
`startRow` says so in one formula, and `startRows_cons` says that the starting
rows are these, one after the other.  Since no two constraints take the same
column, the starting tableau of a well-sized problem is a vertex.
-/

namespace LinearProgram

/-! ## Constraints with right-hand sides that are not negative -/

namespace Constraint

theorem normalize_of_neg {c : Constraint Rat} (negative : c.rhs < 0) :
    c.normalize =
      { c with
        coefficients := c.coefficients.map (- ·), relation := c.relation.flip, rhs := -c.rhs } :=
  if_pos negative

theorem normalize_of_nonneg {c : Constraint Rat} (nonneg : 0 ≤ c.rhs) : c.normalize = c :=
  if_neg (not_lt.mpr nonneg)

theorem rhs_normalize_nonneg (c : Constraint Rat) : 0 ≤ c.normalize.rhs := by
  rcases lt_or_ge c.rhs 0 with negative | nonneg
  · rw [normalize_of_neg negative]
    exact neg_nonneg.mpr negative.le
  · rw [normalize_of_nonneg nonneg]
    exact nonneg

/-- Turning all signs and the relation leaves the points of a constraint as they are. -/
theorem normalize_holdsAt_iff (c : Constraint Rat) (x : Point) :
    c.normalize.HoldsAt x ↔ c.HoldsAt x := by
  rcases lt_or_ge c.rhs 0 with negative | nonneg
  · rw [normalize_of_neg negative]
    obtain ⟨name, coefficients, relation, rhs⟩ := c
    unfold HoldsAt
    cases relation with
    | le => exact (dot_map_neg coefficients x).symm ▸ neg_le_neg_iff
    | ge => exact (dot_map_neg coefficients x).symm ▸ neg_le_neg_iff
    | eq => exact (dot_map_neg coefficients x).symm ▸ neg_inj
  · rw [normalize_of_nonneg nonneg]

end Constraint

/-! ## Lists of zeros but for one value -/

/-- Writing a zero into zeros changes nothing. -/
theorem single_zero (count position : Nat) : single count position (0 : Rat) = zeros count :=
  List.set_replicate_self

theorem getD_single (count position k : Nat) (v : Rat) :
    (single count position v).getD k 0 = if k = position ∧ k < count then v else 0 := by
  unfold single zeros
  rw [List.getD_eq_getElem?_getD, List.getElem?_set, List.length_replicate,
    List.getElem?_replicate]
  by_cases same : position = k
  · subst same
    by_cases inside : position < count
    · rw [if_pos rfl, if_pos inside, if_pos ⟨rfl, inside⟩]
      rfl
    · rw [if_pos rfl, if_neg inside, if_neg fun both => inside both.2]
      rfl
  · have other : ¬ (k = position ∧ k < count) := fun both => same both.1.symm
    rw [if_neg same, if_neg other]
    split <;> rfl

@[simp] theorem getD_zeros (count k : Nat) : (zeros count : List Rat).getD k 0 = 0 := by
  rw [← single_zero count 0, getD_single]
  split <;> rfl

@[simp] theorem dot_zeros (count : Nat) (x : Point) : dot (zeros count) x = 0 :=
  dot_eq_zero fun j _ => by rw [getD_zeros, zero_mul]

theorem dot_single {count position : Nat} (inside : position < count) (v : Rat) (x : Point) :
    dot (single count position v) x = v * x position := by
  have bound : position < (single count position v).length := by rwa [length_single]
  rw [dot_eq_single bound fun j _ ne => by rw [getD_single, if_neg fun both => ne both.1, zero_mul],
    getD_single, if_pos ⟨rfl, inside⟩]

/-! ## One formula for the three relations -/

namespace Relation

/-- The number of slack or surplus columns that a relation takes. -/
def slackUse : Relation → Nat
  | le | ge => 1
  | eq => 0

/-- The number of artificial columns that a relation takes. -/
def artificialUse : Relation → Nat
  | le => 0
  | ge | eq => 1

/-- The sign with which a slack or surplus variable enters its row. -/
def slackSign : Relation → Rat
  | le => 1
  | ge => -1
  | eq => 0

/-- The sign with which an artificial variable enters its row. -/
def artificialSign : Relation → Rat
  | le => 0
  | ge | eq => 1

theorem slackSign_of_slackUse {r : Relation} (unused : r.slackUse = 0) : r.slackSign = 0 := by
  cases r with
  | eq => rfl
  | le => cases unused
  | ge => cases unused

theorem artificialSign_of_artificialUse {r : Relation} (unused : r.artificialUse = 0) :
    r.artificialSign = 0 := by
  cases r with
  | le => rfl
  | ge => cases unused
  | eq => cases unused

end Relation

section Columns

variable {α : Type}

/-- The number of slack and surplus columns that constraints take. -/
def slackTotal (constraints : List (Constraint α)) : Nat :=
  (constraints.map fun c => c.relation.slackUse).sum

/-- The number of artificial columns that constraints take. -/
def artificialTotal (constraints : List (Constraint α)) : Nat :=
  (constraints.map fun c => c.relation.artificialUse).sum

/-- There are columns for constraints, given how many the constraints before them took. -/
structure Fits (l : Layout) (slack artificial : Nat) (constraints : List (Constraint α)) :
    Prop where
  slack : slack + slackTotal constraints ≤ l.slacks
  artificial : artificial + artificialTotal constraints ≤ l.artificials
  width : ∀ c ∈ constraints, c.coefficients.length = l.decisionCount

namespace Fits

variable {l : Layout} {slack artificial : Nat} {c : Constraint α} {rest : List (Constraint α)}

theorem head (fits : Fits l slack artificial (c :: rest)) : Fits l slack artificial [c] := by
  obtain ⟨slack_le, artificial_le, width⟩ := fits
  unfold slackTotal at slack_le
  unfold artificialTotal at artificial_le
  rw [List.map_cons, List.sum_cons] at slack_le artificial_le
  refine ⟨?_, ?_, fun d mem => width d (List.mem_singleton.mp mem ▸ List.mem_cons_self)⟩
  · unfold slackTotal
    rw [List.map_singleton, List.sum_singleton]
    omega
  · unfold artificialTotal
    rw [List.map_singleton, List.sum_singleton]
    omega

theorem tail (fits : Fits l slack artificial (c :: rest)) :
    Fits l (slack + c.relation.slackUse) (artificial + c.relation.artificialUse) rest := by
  obtain ⟨slack_le, artificial_le, width⟩ := fits
  unfold slackTotal at slack_le
  unfold artificialTotal at artificial_le
  rw [List.map_cons, List.sum_cons, ← Nat.add_assoc] at slack_le artificial_le
  exact ⟨slack_le, artificial_le, fun d mem => width d (List.mem_cons_of_mem c mem)⟩

theorem head_slack (fits : Fits l slack artificial [c]) :
    slack + c.relation.slackUse ≤ l.slacks := by
  have bound := fits.slack
  unfold slackTotal at bound
  rwa [List.map_singleton, List.sum_singleton] at bound

theorem head_artificial (fits : Fits l slack artificial [c]) :
    artificial + c.relation.artificialUse ≤ l.artificials := by
  have bound := fits.artificial
  unfold artificialTotal at bound
  rwa [List.map_singleton, List.sum_singleton] at bound

theorem head_width (fits : Fits l slack artificial [c]) :
    c.coefficients.length = l.decisionCount :=
  fits.width c List.mem_cons_self

end Fits

theorem countP_slack (constraints : List (Constraint α)) :
    (constraints.map Constraint.relation).countP (· ≠ .eq) = slackTotal constraints := by
  induction constraints with
  | nil => rfl
  | cons c rest ih =>
    unfold slackTotal at ih ⊢
    rw [List.map_cons, List.countP_cons, ih, List.map_cons, List.sum_cons, Nat.add_comm]
    cases c.relation <;> rfl

theorem countP_artificial (constraints : List (Constraint α)) :
    (constraints.map Constraint.relation).countP (· ≠ .le) = artificialTotal constraints := by
  induction constraints with
  | nil => rfl
  | cons c rest ih =>
    unfold artificialTotal at ih ⊢
    rw [List.map_cons, List.countP_cons, ih, List.map_cons, List.sum_cons, Nat.add_comm]
    cases c.relation <;> rfl

namespace Problem

/-- The layout of a problem has exactly the columns that its constraints take. -/
theorem WellSized.fits [Scalar α] {p : Problem α} (sized : p.WellSized) :
    Fits p.layout 0 0 (p.constraints.map Constraint.normalize) := by
  refine ⟨?_, ?_, fun c mem => ?_⟩
  · rw [Nat.zero_add, ← countP_slack, List.map_map]
    exact le_rfl
  · rw [Nat.zero_add, ← countP_artificial, List.map_map]
    exact le_rfl
  · obtain ⟨d, d_mem, rfl⟩ := List.mem_map.mp mem
    rw [Constraint.length_normalize]
    exact sized.constraints d d_mem

end Problem

end Columns

namespace Tableau

/-- The row of a constraint, given how many columns the constraints before it took. -/
def startRow (l : Layout) (slack artificial : Nat) (c : Constraint Rat) : BasicRow Rat :=
  { basic := match c.relation with
      | .le => l.slackColumn slack
      | .ge | .eq => l.artificialColumn artificial
    row :=
      ⟨c.coefficients ++ single l.slacks slack c.relation.slackSign ++
        single l.artificials artificial c.relation.artificialSign, 0, c.rhs⟩ }

theorem startRows_cons (l : Layout) (slack artificial : Nat) (c : Constraint Rat)
    (rest : List (Constraint Rat)) :
    startRows l slack artificial (c :: rest) =
      startRow l slack artificial c ::
        startRows l (slack + c.relation.slackUse) (artificial + c.relation.artificialUse) rest := by
  obtain ⟨name, coefficients, relation, rhs⟩ := c
  cases relation with
  | le =>
    unfold startRow
    simp only [startRows, Relation.slackUse, Relation.artificialUse, Relation.artificialSign,
      single_zero]
    rfl
  | ge => rfl
  | eq =>
    unfold startRow
    simp only [startRows, Relation.slackUse, Relation.artificialUse, Relation.slackSign,
      single_zero]
    rfl

/-- Every starting row is the row of one of the constraints. -/
theorem mem_startRows {l : Layout} {slack artificial : Nat} {constraints : List (Constraint Rat)}
    (fits : Fits l slack artificial constraints) {r : BasicRow Rat}
    (mem : r ∈ startRows l slack artificial constraints) :
    ∃ c ∈ constraints, ∃ s a, slack ≤ s ∧ artificial ≤ a ∧ Fits l s a [c] ∧
      r = startRow l s a c := by
  induction constraints generalizing slack artificial with
  | nil => exact absurd mem List.not_mem_nil
  | cons c rest ih =>
    rw [startRows_cons] at mem
    rcases List.mem_cons.mp mem with rfl | later
    · exact ⟨c, List.mem_cons_self, slack, artificial, le_rfl, le_rfl, fits.head, rfl⟩
    · obtain ⟨d, d_mem, s, a, s_le, a_le, d_fits, eq⟩ := ih fits.tail later
      exact ⟨d, List.mem_cons_of_mem c d_mem, s, a, by omega, by omega, d_fits, eq⟩

/-- Every constraint has its row among the starting rows. -/
theorem exists_startRow {l : Layout} {slack artificial : Nat}
    {constraints : List (Constraint Rat)} (fits : Fits l slack artificial constraints)
    {c : Constraint Rat} (mem : c ∈ constraints) :
    ∃ s a, Fits l s a [c] ∧ startRow l s a c ∈ startRows l slack artificial constraints := by
  induction constraints generalizing slack artificial with
  | nil => exact absurd mem List.not_mem_nil
  | cons d rest ih =>
    rw [startRows_cons]
    rcases List.mem_cons.mp mem with rfl | later
    · exact ⟨slack, artificial, fits.head, List.mem_cons_self⟩
    · obtain ⟨s, a, c_fits, row_mem⟩ := ih fits.tail later
      exact ⟨s, a, c_fits, List.mem_cons_of_mem _ row_mem⟩

section StartRow

variable {l : Layout} {slack artificial : Nat} {c : Constraint Rat}
  (fits : Fits l slack artificial [c])

include fits

theorem length_startRow : (startRow l slack artificial c).row.cells.length = l.width := by
  unfold startRow
  rw [List.length_append, List.length_append, length_single, length_single, fits.head_width]
  rfl

theorem entry_startRow_slack {k : Nat} (inside : k < l.slacks) :
    (startRow l slack artificial c).row.entry (l.slackColumn k) =
      if k = slack then c.relation.slackSign else 0 := by
  have first : l.slackColumn k <
      (c.coefficients ++ single l.slacks slack c.relation.slackSign).length := by
    rw [List.length_append, length_single, fits.head_width]
    exact Nat.add_lt_add_left inside _
  have second : c.coefficients.length ≤ l.slackColumn k := by
    rw [fits.head_width]
    exact Nat.le_add_right _ _
  have offset : l.slackColumn k - c.coefficients.length = k := by
    rw [fits.head_width]
    exact Nat.add_sub_cancel_left _ _
  unfold startRow Row.entry
  rw [List.getD_append _ _ _ _ first, List.getD_append_right _ _ _ _ second, offset]
  exact (getD_single _ _ _ _).trans (by simp only [inside, and_true])

theorem entry_startRow_artificial {k : Nat} (inside : k < l.artificials) :
    (startRow l slack artificial c).row.entry (l.artificialColumn k) =
      if k = artificial then c.relation.artificialSign else 0 := by
  have before : (c.coefficients ++ single l.slacks slack c.relation.slackSign).length =
      l.realCount := by
    rw [List.length_append, length_single, fits.head_width]
    rfl
  have bound : (c.coefficients ++ single l.slacks slack c.relation.slackSign).length ≤
      l.artificialColumn k := before ▸ Nat.le_add_right _ _
  have offset : l.artificialColumn k -
      (c.coefficients ++ single l.slacks slack c.relation.slackSign).length = k := by
    rw [before]
    exact Nat.add_sub_cancel_left _ _
  unfold startRow Row.entry
  rw [List.getD_append_right _ _ _ _ bound, offset]
  exact (getD_single _ _ _ _).trans (by simp only [inside, and_true])

/-- A starting row at a point: the constraint, its slack variable and its artificial one. -/
theorem gap_startRow (y : Point) :
    (startRow l slack artificial c).row.gap y =
      c.rhs - (dot c.coefficients y + c.relation.slackSign * y (l.slackColumn slack) +
        c.relation.artificialSign * y (l.artificialColumn artificial)) := by
  have slack_part : dot (single l.slacks slack c.relation.slackSign)
      (fun j => y (c.coefficients.length + j)) =
      c.relation.slackSign * y (l.slackColumn slack) := by
    have room := fits.head_slack
    by_cases inside : slack < l.slacks
    · rw [dot_single inside, fits.head_width]
      rfl
    · rw [Relation.slackSign_of_slackUse (by omega), single_zero, dot_zeros, zero_mul]
  have artificial_part : dot (single l.artificials artificial c.relation.artificialSign)
      (fun j => y ((c.coefficients ++ single l.slacks slack c.relation.slackSign).length + j)) =
      c.relation.artificialSign * y (l.artificialColumn artificial) := by
    have room := fits.head_artificial
    by_cases inside : artificial < l.artificials
    · rw [dot_single inside, List.length_append, length_single, fits.head_width]
      rfl
    · rw [Relation.artificialSign_of_artificialUse (by omega), single_zero, dot_zeros, zero_mul]
  have cells : (startRow l slack artificial c).row.gap y =
      c.rhs - dot (c.coefficients ++ single l.slacks slack c.relation.slackSign ++
        single l.artificials artificial c.relation.artificialSign) y := rfl
  rw [cells, dot_append, dot_append, slack_part, artificial_part]

theorem basic_startRow_lt : (startRow l slack artificial c).basic < l.width := by
  have slack_room := fits.head_slack
  have artificial_room := fits.head_artificial
  obtain ⟨name, coefficients, relation, rhs⟩ := c
  unfold startRow Layout.width Layout.realCount
  cases relation with
  | le =>
    have room : slack + 1 ≤ l.slacks := slack_room
    have column : l.slackColumn slack = l.decisionCount + slack := rfl
    dsimp only
    omega
  | ge =>
    have room : artificial + 1 ≤ l.artificials := artificial_room
    have column : l.artificialColumn artificial = l.decisionCount + l.slacks + artificial := rfl
    dsimp only
    omega
  | eq =>
    have room : artificial + 1 ≤ l.artificials := artificial_room
    have column : l.artificialColumn artificial = l.decisionCount + l.slacks + artificial := rfl
    dsimp only
    omega

theorem unit_startRow :
    (startRow l slack artificial c).row.entry (startRow l slack artificial c).basic = 1 := by
  have slack_room := fits.head_slack
  have artificial_room := fits.head_artificial
  obtain ⟨name, coefficients, relation, rhs⟩ := c
  cases relation with
  | le => exact (entry_startRow_slack fits slack_room).trans (if_pos rfl)
  | ge => exact (entry_startRow_artificial fits artificial_room).trans (if_pos rfl)
  | eq => exact (entry_startRow_artificial fits artificial_room).trans (if_pos rfl)

/-- A row has no entry in the basic column of a constraint that takes other columns. -/
theorem entry_startRow_other {s a : Nat} {d : Constraint Rat} (other : Fits l s a [d])
    (slack_ne : s = slack → c.relation.slackUse = 0 ∨ d.relation.slackUse = 0)
    (artificial_ne : a = artificial →
      c.relation.artificialUse = 0 ∨ d.relation.artificialUse = 0) :
    (startRow l slack artificial c).row.entry (startRow l s a d).basic = 0 := by
  have slack_room := other.head_slack
  have artificial_room := other.head_artificial
  have at_slack : d.relation.slackUse = 1 →
      (startRow l slack artificial c).row.entry (l.slackColumn s) = 0 := by
    intro used
    rw [entry_startRow_slack fits (by omega)]
    split
    · next same =>
      rcases slack_ne same with unused | unused
      · exact Relation.slackSign_of_slackUse unused
      · omega
    · rfl
  have at_artificial : d.relation.artificialUse = 1 →
      (startRow l slack artificial c).row.entry (l.artificialColumn a) = 0 := by
    intro used
    rw [entry_startRow_artificial fits (by omega)]
    split
    · next same =>
      rcases artificial_ne same with unused | unused
      · exact Relation.artificialSign_of_artificialUse unused
      · omega
    · rfl
  obtain ⟨name, coefficients, relation, rhs⟩ := d
  cases relation with
  | le => exact at_slack rfl
  | ge => exact at_artificial rfl
  | eq => exact at_artificial rfl

end StartRow

/-- No starting row mentions another one's basic variable, because every constraint takes columns
beyond those of the constraints before it. -/
theorem pairwise_startRows {l : Layout} {slack artificial : Nat}
    {constraints : List (Constraint Rat)} (fits : Fits l slack artificial constraints) :
    (startRows l slack artificial constraints).Pairwise BasicRow.Apart := by
  induction constraints generalizing slack artificial with
  | nil => exact List.Pairwise.nil
  | cons c rest ih =>
    rw [startRows_cons]
    refine List.Pairwise.cons (fun r mem => ?_) (ih fits.tail)
    obtain ⟨d, _, s, a, s_le, a_le, d_fits, rfl⟩ := mem_startRows fits.tail mem
    exact ⟨entry_startRow_other fits.head d_fits (fun same => Or.inl (by omega))
        fun same => Or.inl (by omega),
      entry_startRow_other d_fits fits.head (fun same => Or.inr (by omega))
        fun same => Or.inr (by omega)⟩

end Tableau

/-! ## The starting tableau of a problem -/

namespace Tableau

variable {p : Problem Rat}

theorem solved_ofProblem (sized : p.WellSized) : (ofProblem p).Solved := by
  refine ⟨fun r mem => ?_, fun r mem => ?_, fun r mem => ?_, fun r mem => ?_,
    pairwise_startRows sized.fits⟩
  all_goals obtain ⟨c, _, s, a, _, _, c_fits, rfl⟩ := mem_startRows sized.fits mem
  · exact length_startRow c_fits
  · exact basic_startRow_lt c_fits
  · rfl
  · exact unit_startRow c_fits

/-- The costs of the starting objective row, one for each decision variable. -/
def startCosts {α : Type} [Scalar α] (o : Objective α) : List α :=
  match o.sense with
  | .maximize => o.coefficients.map (- ·)
  | .minimize => o.coefficients

theorem length_startCosts {α : Type} [Scalar α] (o : Objective α) :
    (startCosts o).length = o.coefficients.length := by
  unfold startCosts
  cases o.sense with
  | maximize => exact List.length_map _
  | minimize => rfl

theorem startObjective_cells {α : Type} [Scalar α] (l : Layout) (o : Objective α) :
    (startObjective l o).cells = startCosts o ++ zeros l.slacks ++ zeros l.artificials := rfl

/-- Only decision variables have a cost. -/
theorem entry_startObjective_of_le {l : Layout} {o : Objective Rat}
    {c : Nat} (beyond : o.coefficients.length ≤ c) : (startObjective l o).entry c = 0 := by
  unfold Row.entry
  rw [startObjective_cells, List.append_assoc,
    List.getD_append_right _ _ _ _ ((length_startCosts o).trans_le beyond)]
  rcases Nat.lt_or_ge (c - (startCosts o).length) (zeros l.slacks : List Rat).length with
    inside | outside
  · rw [List.getD_append _ _ _ _ inside]
    exact getD_zeros _ _
  · rw [List.getD_append_right _ _ _ _ outside]
    exact getD_zeros _ _

theorem decisionCount_le_basic_startRow (l : Layout) (s a : Nat) (c : Constraint Rat) :
    l.decisionCount ≤ (startRow l s a c).basic := by
  unfold startRow
  cases c.relation with
  | le => exact Nat.le_add_right _ _
  | ge => exact (Nat.le_add_right _ _).trans (Nat.le_add_right _ _)
  | eq => exact (Nat.le_add_right _ _).trans (Nat.le_add_right _ _)

theorem canonical_ofProblem (sized : p.WellSized) : (ofProblem p).Canonical := by
  refine ⟨solved_ofProblem sized, (shaped_ofProblem sized).objective_width, rfl, fun r mem => ?_⟩
  obtain ⟨c, _, s, a, _, _, _, rfl⟩ := mem_startRows sized.fits mem
  refine entry_startObjective_of_le ?_
  rw [sized.objective]
  exact decisionCount_le_basic_startRow p.layout s a c

theorem feasible_ofProblem (sized : p.WellSized) : (ofProblem p).Feasible := by
  intro r mem
  obtain ⟨c, c_mem, s, a, _, _, _, rfl⟩ := mem_startRows sized.fits mem
  obtain ⟨d, _, rfl⟩ := List.mem_map.mp c_mem
  exact d.rhs_normalize_nonneg

theorem isVertex_ofProblem (sized : p.WellSized) : (ofProblem p).IsVertex :=
  ⟨canonical_ofProblem sized, feasible_ofProblem sized⟩

end Tableau

end LinearProgram

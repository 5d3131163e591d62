import LinearProgram.Proofs.Sheet.Operations
import LinearProgram.Proofs.Start

/-!
# The starting sheet

Validation never misses a name that it wants for a message: it only looks for
names when it knows that there is one for each number.  Filling in the sheet of
an accepted problem never misses an entry, a label or a column, and what comes
out is the sheet of the starting tableau.
-/

namespace LinearProgram

/-! ## Computations in which no access fails -/

/-- What is computed without an access that could fail. -/
def total {ε β : Type} (e : Except ε β) : ExceptT ε Option β := ExceptT.mk (some e)

section Total

variable {ε β γ : Type}

theorem total_bind (e : Except ε β) (f : β → Except ε γ) :
    total (e >>= f) = total e >>= fun x => total (f x) := by
  cases e <;> rfl

theorem total_ite_throw {condition : Prop} [Decidable condition] {fault : ε}
    {next : Unit → Except ε γ} :
    total (if condition then throw fault >>= next else next ()) =
      if condition then throw fault >>= fun u => total (next u) else total (next ()) := by
  split <;> rfl

end Total

namespace Layout

variable {l : Layout} {k : Nat}

theorem slackColumn_lt (inside : k < l.slacks) : l.slackColumn k < l.width := by
  simp only [slackColumn, width, realCount]
  omega

theorem decisionCount_le_columnCount (l : Layout) : l.decisionCount ≤ l.columnCount :=
  (Nat.le_add_right _ _).trans ((Nat.le_add_right _ _).trans (Nat.le_add_right _ _))

theorem artificialColumn_lt (inside : k < l.artificials) : l.artificialColumn k < l.width :=
  Nat.add_lt_add_left inside _

end Layout

variable {α : Type} [Scalar α]

/-! ## Validation -/

namespace Problem

theorem checkFinite?_eq {names : List String} (location : String → Location) {j : Nat}
    {values : List α} (named : j + values.length ≤ names.length) :
    checkFinite? names location j values =
      total (checkFinite location ((names.drop j).zip values)) := by
  induction values generalizing j with
  | nil =>
    rw [List.zip_nil_right]
    rfl
  | cons x rest ih =>
    rw [List.length_cons] at named
    have inside : j < names.length := by omega
    rw [List.drop_eq_getElem_cons inside, List.zip_cons_cons, checkFinite?, checkFinite]
    split
    · exact ih (by omega)
    · rw [List.getElem?_eq_getElem inside]
      rfl

theorem checkConstraint?_eq (twoPhase : Bool) (names : List String) (c : Constraint α) :
    checkConstraint? twoPhase names names.length c = total (checkConstraint twoPhase names c) := by
  unfold checkConstraint? checkConstraint
  rw [total_ite_throw]
  refine if_ctx_congr Iff.rfl (fun _ => rfl) fun sized => ?_
  rw [checkFinite?_eq _ (by rw [Nat.zero_add, not_not.mp sized]), total_bind]
  refine congrArg (total _ >>= ·) (funext fun _ => ?_)
  rw [total_ite_throw]
  cases twoPhase <;> rfl

theorem checkConstraints?_eq (twoPhase : Bool) (names : List String)
    (constraints : List (Constraint α)) :
    checkConstraints? twoPhase names names.length constraints =
      total (checkConstraints twoPhase names constraints) := by
  induction constraints with
  | nil => rfl
  | cons c rest ih =>
    rw [checkConstraints?, checkConstraints, total_bind, checkConstraint?_eq, ih]

/-- Validation finds every name that it looks for. -/
theorem validate?_eq (p : Problem α) (twoPhase : Bool) :
    p.validate? twoPhase = total (p.validate twoPhase) := by
  unfold validate? validate
  rw [total_ite_throw]
  refine if_ctx_congr Iff.rfl (fun _ => rfl) fun _ => ?_
  rw [total_ite_throw]
  refine if_ctx_congr Iff.rfl (fun _ => rfl) fun named => ?_
  have count : p.names.length = p.variableCount := not_not.mp named
  rw [total_bind]
  refine congrArg (total _ >>= ·) (funext fun _ => ?_)
  rw [total_bind, checkFinite?_eq _ (by rw [Nat.zero_add, count]; exact le_rfl), ← count,
    checkConstraints?_eq]
  rfl

end Problem

/-! ## Rows of constraints -/

namespace Sheet

/-- A sheet in which some rows have been filled in and some are left. -/
def filled (l : Layout) (rows : List (BasicRow α)) (left : Nat) : Sheet α :=
  { data := rows.map (fun r => r.row.entries) ++ List.replicate left (zeros l.columnCount)
    labels := l.labels
    decisions := l.decisionCount
    slacks := l.slacks
    artificials := l.artificials
    basis := rows.map fun r => l.label r.basic }

variable {l : Layout} {rows : List (BasicRow α)} {left : Nat}

theorem getElem?_filled (l : Layout) (rows : List (BasicRow α)) (left : Nat) :
    (filled l rows (left + 1)).data[rows.length]? = some (zeros l.columnCount) := by
  show (_ ++ List.replicate (left + 1) _)[rows.length]? = _
  rw [List.getElem?_append_right (by simp), List.length_map, Nat.sub_self]
  rfl

/-- Filling in the next row. -/
theorem filled_concat (l : Layout) (rows : List (BasicRow α)) (left : Nat) (r : BasicRow α) :
    { (filled l rows (left + 1)).setRow rows.length r.row.entries with
      basis := (filled l rows (left + 1)).basis ++ [l.label r.basic] } =
      filled l (rows ++ [r]) left := by
  have data : (filled l rows (left + 1)).data.set rows.length r.row.entries =
      (filled l (rows ++ [r]) left).data := by
    show (_ ++ List.replicate (left + 1) _).set rows.length _ = _
    rw [List.set_append_right _ _ (by simp), List.length_map, Nat.sub_self]
    simp [filled, List.replicate_succ]
  have basis : (filled l rows (left + 1)).basis ++ [l.label r.basic] =
      (filled l (rows ++ [r]) left).basis := by
    simp [filled]
  unfold setRow
  rw [data, basis]
  rfl

/-- Numbers for the decision variables, and zeros in all other columns. -/
theorem append_drop_zeros (xs : List α) :
    xs ++ (zeros l.columnCount).drop l.decisionCount =
      (Row.mk (xs ++ zeros l.slacks ++ zeros l.artificials) 0 0).entries := by
  have rest : l.columnCount - l.decisionCount = l.slacks + (l.artificials + 2) := by
    rw [Layout.columnCount, Layout.width, Layout.realCount]
    omega
  rw [zeros, List.drop_replicate, rest]
  simp only [Row.entries, zeros, List.append_assoc, List.replicate_add]
  rfl

theorem copy?_zeros {xs : List α} (width : xs.length = l.decisionCount) :
    copy? l.decisionCount xs (zeros l.columnCount) =
      some (Row.mk (xs ++ zeros l.slacks ++ zeros l.artificials) 0 0).entries := by
  have room : l.decisionCount ≤ (zeros l.columnCount : List α).length := by
    rw [length_zeros]
    exact l.decisionCount_le_columnCount
  rw [copy?, if_pos ⟨room, width⟩, append_drop_zeros]

section Groups

variable {coefficients ss as : List α} (width : coefficients.length = l.decisionCount)
  (slacks : ss.length = l.slacks)

include width

omit [Scalar α] in
theorem set_slackColumn {k : Nat} (inside : k < ss.length) (x : α) :
    (coefficients ++ ss ++ as).set (l.slackColumn k) x = coefficients ++ ss.set k x ++ as := by
  have column : l.slackColumn k - coefficients.length = k := by
    rw [width]
    exact Nat.add_sub_cancel_left _ _
  have after : coefficients.length ≤ l.slackColumn k := width ▸ Nat.le_add_right _ _
  rw [List.set_append_left _ _ (by rw [List.length_append]; omega),
    List.set_append_right _ _ after, column]

include slacks

omit [Scalar α] in
theorem set_artificialColumn (k : Nat) (x : α) :
    (coefficients ++ ss ++ as).set (l.artificialColumn k) x = coefficients ++ ss ++ as.set k x := by
  have real : (coefficients ++ ss).length = l.realCount := by
    rw [List.length_append, width, slacks, Layout.realCount]
  have column : l.artificialColumn k - (coefficients ++ ss).length = k := by
    rw [real]
    exact Nat.add_sub_cancel_left _ _
  rw [List.set_append_right _ _ (real ▸ Nat.le_add_right _ _), column]

end Groups

/-- Making a column basic in the row that is being filled in finishes the row. -/
theorem start?_filled {cells : List α} {bound : α} {c : Nat} (width : cells.length = l.width)
    (inside : c < l.width) :
    ((filled l rows (left + 1)).setRow rows.length (Row.mk cells 0 bound).entries).start?
        rows.length c =
      some (filled l (rows ++ [⟨c, cells.set c 1, 0, bound⟩]) left) := by
  have here := getElem?_setRow_self (getElem?_filled l rows left) (Row.mk cells 0 bound).entries
  refine bind_of_eq_some (set?_cell here (inside.trans_eq width.symm) 1) ?_
  rw [setRow_setRow]
  refine bind_of_eq_some (Layout.getElem?_labels inside) ?_
  rw [← filled_concat]
  rfl

end Sheet

namespace Tableau

theorem startRows_cons_eq_append (l : Layout) (slack artificial : Nat) (c : Constraint α)
    (rest : List (Constraint α)) :
    startRows l slack artificial (c :: rest) = startRows l slack artificial [c] ++
      startRows l (slack + c.relation.slackUse) (artificial + c.relation.artificialUse) rest := by
  obtain ⟨name, coefficients, relation, rhs⟩ := c
  cases relation <;> rfl

theorem length_startRows_singleton (l : Layout) (slack artificial : Nat) (c : Constraint α) :
    (startRows l slack artificial [c]).length = 1 := by
  obtain ⟨name, coefficients, relation, rhs⟩ := c
  cases relation <;> rfl

theorem basic_startRows_lt {l : Layout} {slack artificial : Nat}
    {constraints : List (Constraint α)} (fits : Fits l slack artificial constraints) :
    ∀ r ∈ startRows l slack artificial constraints, r.basic < l.width := by
  induction constraints generalizing slack artificial with
  | nil => exact fun r mem => absurd mem List.not_mem_nil
  | cons c rest ih =>
    intro r mem
    rw [startRows_cons_eq_append] at mem
    rcases List.mem_append.mp mem with first | later
    · have slack_room := fits.head.head_slack
      have artificial_room := fits.head.head_artificial
      obtain ⟨name, coefficients, relation, rhs⟩ := c
      cases relation with
      | le =>
        cases List.mem_singleton.mp first
        exact Layout.slackColumn_lt slack_room
      | ge =>
        cases List.mem_singleton.mp first
        exact Layout.artificialColumn_lt artificial_room
      | eq =>
        cases List.mem_singleton.mp first
        exact Layout.artificialColumn_lt artificial_room
    · exact ih fits.tail r later

end Tableau

namespace Sheet

variable {l : Layout} {rows : List (BasicRow α)} {left : Nat}

theorem fillRow?_eq {slack artificial : Nat} {c : Constraint α}
    (fits : Fits l slack artificial [c]) :
    fillRow? rows.length c
        ⟨filled l rows (left + 1), l.slackColumn slack, l.artificialColumn artificial⟩ =
      some ⟨filled l (rows ++ Tableau.startRows l slack artificial [c]) left,
        l.slackColumn (slack + c.relation.slackUse),
        l.artificialColumn (artificial + c.relation.artificialUse)⟩ := by
  have width := fits.head_width
  have slack_room := fits.head_slack
  have artificial_room := fits.head_artificial
  have blank := getElem?_filled l rows left
  let base : List α := c.coefficients ++ zeros l.slacks ++ zeros l.artificials
  have base_width : base.length = l.width := by
    rw [List.length_append, List.length_append, length_zeros, length_zeros, width]
    rfl
  let written (cells : List α) (bound : α) : Sheet α :=
    (filled l rows (left + 1)).setRow rows.length (Row.mk cells 0 bound).entries
  have rhsColumn : (written base 0).rhsColumn? = some (l.width + 1) := by
    show l.labels.length.ppred = _
    rw [Layout.length_labels]
    rfl
  have set_rhs : (written base 0).set? rows.length (l.width + 1) c.rhs =
      some (written base c.rhs) := by
    have eq := set?_rhs (getElem?_setRow_self blank (Row.mk base 0 0).entries) c.rhs
    rwa [base_width, setRow_setRow] at eq
  refine bind_of_eq_some blank (bind_of_eq_some (copy?_zeros width)
    (bind_of_eq_some rhsColumn (bind_of_eq_some set_rhs ?_)))
  rw [Tableau.startRows]
  cases relation : c.relation with
  | le =>
    have room : slack < l.slacks := by rwa [relation] at slack_room
    refine bind_of_eq_some (start?_filled base_width (Layout.slackColumn_lt room)) ?_
    rw [set_slackColumn width (by rwa [length_zeros])]
    rfl
  | ge =>
    have room : slack < l.slacks := by rwa [relation] at slack_room
    have a_room : artificial < l.artificials := by rwa [relation] at artificial_room
    have column := Layout.slackColumn_lt room
    have surplus : (written base c.rhs).set? rows.length (l.slackColumn slack) (-1) =
        some (written (base.set (l.slackColumn slack) (-1)) c.rhs) := by
      have here := getElem?_setRow_self blank (Row.mk base 0 c.rhs).entries
      rw [set?_cell here (column.trans_eq base_width.symm), setRow_setRow]
    refine bind_of_eq_some surplus (bind_of_eq_some
      (start?_filled (List.length_set.trans base_width) (Layout.artificialColumn_lt a_room)) ?_)
    rw [set_slackColumn width (by rwa [length_zeros]), set_artificialColumn width (by simp)]
    rfl
  | eq =>
    have a_room : artificial < l.artificials := by rwa [relation] at artificial_room
    refine bind_of_eq_some (start?_filled base_width (Layout.artificialColumn_lt a_room)) ?_
    rw [set_artificialColumn width (length_zeros _)]
    rfl

theorem fillRows?_eq (rows : List (BasicRow α)) {slack artificial : Nat}
    {constraints : List (Constraint α)} (fits : Fits l slack artificial constraints) :
    ∃ s a, fillRows? rows.length constraints
        ⟨filled l rows (constraints.length + 1), l.slackColumn slack,
          l.artificialColumn artificial⟩ =
      some ⟨filled l (rows ++ Tableau.startRows l slack artificial constraints) 1, s, a⟩ := by
  induction constraints generalizing rows slack artificial with
  | nil =>
    rw [Tableau.startRows, List.append_nil]
    exact ⟨_, _, rfl⟩
  | cons c rest ih =>
    obtain ⟨s, a, filled_rest⟩ :=
      ih (rows ++ Tableau.startRows l slack artificial [c]) fits.tail
    rw [List.length_append, Tableau.length_startRows_singleton, List.append_assoc,
      ← Tableau.startRows_cons_eq_append] at filled_rest
    exact ⟨s, a, bind_of_eq_some (fillRow?_eq fits.head) filled_rest⟩

/-! ## The objective row -/

theorem fillObjective?_eq {t : Sheet α} {o : Objective α} {i : Nat}
    (labels : t.markColumn = l.width) (width : o.coefficients.length = l.decisionCount)
    (blank : t.data[i]? = some (zeros l.columnCount)) :
    t.fillObjective? i o = some (t.setRow i (Tableau.startObjective l o).entries) := by
  have length : (Tableau.startCosts o).length = l.decisionCount :=
    (Tableau.length_startCosts o).trans width
  have within : (Tableau.startCosts o).length ≤ (zeros l.columnCount : List α).length := by
    rw [length_zeros, length]
    exact l.decisionCount_le_columnCount
  let costs : Row α := ⟨Tableau.startCosts o ++ zeros l.slacks ++ zeros l.artificials, 0, 0⟩
  have costs_width : costs.cells.length = l.width := by
    rw [List.length_append, List.length_append, length_zeros, length_zeros, length]
    rfl
  have loop := foldlM_set?_values blank within
  rw [length, append_drop_zeros, ← length] at loop
  refine bind_of_eq_some loop ?_
  rw [labels, ← costs_width, set?_mark (getElem?_setRow_self blank costs.entries), setRow_setRow]
  rfl

end Sheet

namespace Tableau

theorem legible_ofProblem {p : Problem α} {twoPhase : Bool}
    (valid : p.validate twoPhase = .ok ()) : (ofProblem p).Legible := by
  have sized := Problem.wellSized_of_validate valid
  exact ⟨shaped_ofProblem sized, basic_startRows_lt sized.fits,
    Problem.nodup_labels_of_validate valid⟩

end Tableau

namespace Sheet

/-- The blank sheet has the rows of all constraints and the objective row still to fill. -/
theorem blank_eq {p : Problem α} (count : p.variableCount = p.layout.decisionCount) :
    blank p = filled p.layout [] ((p.constraints.map Constraint.normalize).length + 1) := by
  unfold blank filled
  rw [Layout.length_labels, List.length_map, count]
  rfl

/-- The objective row is the last one to be filled, and then the sheet is the starting one. -/
theorem fillObjective?_ofProblem {p : Problem α}
    (width : p.objective.coefficients.length = p.layout.decisionCount) :
    fillObjective? p.constraints.length p.objective
        { filled p.layout (Tableau.ofProblem p).rows 1 with
          basis := (filled p.layout (Tableau.ofProblem p).rows 1).basis ++ [objectiveLabel] } =
      some (Tableau.ofProblem p).sheet := by
  let named : Sheet α := { filled p.layout (Tableau.ofProblem p).rows 1 with
    basis := (filled p.layout (Tableau.ofProblem p).rows 1).basis ++ [objectiveLabel] }
  have length := Tableau.length_rows_ofProblem p
  have here : named.data[p.constraints.length]? = some (zeros p.layout.columnCount) :=
    length ▸ getElem?_filled p.layout (Tableau.ofProblem p).rows 0
  have data : named.data.set p.constraints.length
      (Tableau.startObjective p.layout p.objective).entries = (Tableau.ofProblem p).entries := by
    show (_ ++ [_]).set _ _ = _
    rw [List.set_append_right _ _ (by simp [length]), List.length_map, length, Nat.sub_self,
      Tableau.entries_eq]
    rfl
  refine (fillObjective?_eq (t := named) rfl width here).trans ?_
  unfold setRow
  rw [data]
  rfl

/-- Building the starting sheet never fails for want of an entry. -/
theorem build?_eq (p : Problem α) (twoPhase : Bool) :
    build? p twoPhase = total ((p.tableau twoPhase).map Tableau.sheet) := by
  rw [build?, Problem.tableau, Problem.validate?_eq]
  cases valid : p.validate twoPhase with
  | error fault => rfl
  | ok =>
    have sized := Problem.wellSized_of_validate valid
    obtain ⟨slack, artificial, rows⟩ := fillRows?_eq [] sized.fits
    have filled_rows : fillRows? 0 (p.constraints.map Constraint.normalize)
        ⟨blank p, (blank p).decisions, (blank p).realCount⟩ =
        some ⟨filled p.layout (Tableau.ofProblem p).rows 1, slack, artificial⟩ := by
      rw [blank_eq sized.objective]
      exact rows
    dsimp only
    rw [filled_rows]
    show (liftM (fillObjective? p.constraints.length p.objective _) :
      ExceptT (Fault α) Option _) = _
    rw [fillObjective?_ofProblem sized.objective]
    rfl

end Sheet

end LinearProgram

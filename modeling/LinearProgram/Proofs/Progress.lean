import Mathlib.Data.Finset.Powerset
import LinearProgram.Proofs.ObjectiveValue
import LinearProgram.Proofs.Termination

/-!
# Loops that make progress

A pivot in a row whose right-hand side is above zero raises the right-hand side
of the objective row.  If all pivots of a loop are of that kind, it is in no
tableau twice, not even in two tableaux with the same basic variables in other
rows, since these have the same objective row.  So there are at most as many
tableaux in a loop as there are sets of basic variables, and a run of two loops
ends within twice that many pivots.

* `Course.loop_eq`: between two positions in one loop, a run records this loop
  and nothing else.
* `Tableau.IsVertex.pairwise_visited`: along such a loop the objective row rises.
* `Tableau.IsVertex.length_visited_le`: the bound on one loop.
-/

namespace LinearProgram

variable {α : Type}

/-! ## Positions in a loop -/

/-- The step at a position shows a tableau of one loop: one in which it pivots, or the one in which
its last pivot has ended. -/
def Report.AtLoop (r : Report α) (stage : Stage) (k : Nat) : Prop :=
  ∃ x, r.steps[k]? = some x ∧ ((∃ p, x.event = .pivot stage p) ∨
    ∃ j y p, k = j + 1 ∧ r.steps[j]? = some y ∧ y.event = .pivot stage p)

/-- How late in a run a state comes.  Only pivots and exchanges stay where they are. -/
def Control.rank : Control → Nat
  | opening => 0
  | pricing => 1
  | improving .only | improving .first => 2
  | exchanging _ => 3
  | improving .second => 4
  | finished => 5

/-- All tableaux that a loop has been in, the last one included. -/
def Trail.visited (t : Trail α) : List (Tableau α) := t.moments.map Moment.tableau ++ [t.tableau]

section Positions

variable [Scalar α] {s : Solver α} {p : Problem α} {start : Tableau α} {a b : Configuration α}
  {m : Moment α} {ms : List (Moment α)} {stage : Stage}

/-- A pivot of a loop stays in the loop. -/
theorem Transition.control_of_pivot (step : Transition s start a m b) {q : Pivot α}
    (event : m.event = .pivot stage q) :
    a.control = .improving stage ∧ b.control = .improving stage := by
  cases step with
  | pivot =>
    cases event
    exact ⟨rfl, rfl⟩
  | start | priceArtificials | driveOut | restoreObjective | finish => cases event

theorem Transition.rank_le (step : Transition s start a m b) :
    a.control.rank ≤ b.control.rank := by
  cases step with
  | start => exact Nat.zero_le _
  | priceArtificials => simp [Control.rank]
  | pivot => exact le_rfl
  | driveOut pending | restoreObjective pending =>
    rcases pending.control_eq with rfl | ⟨_, rfl⟩ <;> simp [Control.rank]
  | @finish stage => cases stage <;> simp [Control.rank]

theorem Course.rank_le (course : Course s start a ms b) : a.control.rank ≤ b.control.rank := by
  induction course with
  | nil => exact le_rfl
  | cons step _ ih => exact step.rank_le.trans ih

/-- Between two positions in one loop a run records what the loop does by itself. -/
theorem Course.loop_eq (course : Course s start a ms b) (entered : a.control = .improving stage)
    (stays : b.control = .improving stage) :
    ms = (a.tableau.improve stage ms.length a.iterations).moments ∧
      b.tableau = (a.tableau.improve stage ms.length a.iterations).tableau := by
  induction course with
  | @nil a =>
    rw [List.length_nil]
    unfold Tableau.improve
    split <;> exact ⟨rfl, rfl⟩
  | @cons a b c m ms step rest ih =>
    have later := rest.rank_le
    rw [stays] at later
    cases step with
    | start | priceArtificials => cases entered
    | @pivot stage t n c i _ entering leaving =>
      cases entered
      obtain ⟨recorded, ended⟩ := ih rfl stays
      rw [List.length_cons, Tableau.improve_succ_of_some entering leaving]
      exact ⟨congrArg (_ :: ·) recorded, ended⟩
    | driveOut pending | restoreObjective pending =>
      -- The loop of the first phase has been left for good.
      rcases pending.control_eq with first | ⟨_, exchanging⟩
      · cases first.symm.trans entered
        exact absurd later (by simp [Control.rank])
      · cases exchanging.symm.trans entered
    | finish =>
      cases entered
      exact absurd later (by cases stage <;> simp [Control.rank])

/-- A run that records a position of a loop next is in the loop. -/
theorem Solver.control_of_atLoop {k : Nat}
    (before : Course s start ⟨.opening, start, 0⟩ ((s.moments p start).take k) a)
    (at_k : (s.moments p start)[k]? = some m) (step : Transition s start a m b)
    (inside : (s.report p (s.trail start)).AtLoop stage k) : a.control = .improving stage := by
  obtain ⟨x, x_at, pivot | ⟨j, y, q, rfl, y_at, pivot⟩⟩ := inside
  · obtain ⟨q, event⟩ := pivot
    cases at_k.symm.trans (s.getElem?_moments_of_step x_at)
    exact (step.control_of_pivot event).1
  · rw [List.take_add_one, s.getElem?_moments_of_step y_at] at before
    obtain ⟨_, _, _, last, rest⟩ := before.cut
    cases rest
    exact (last.control_of_pivot pivot).2

end Positions

/-! ## Pivots that make progress -/

/-- A pivot of a loop, if it is one, is in a row whose right-hand side is above zero. -/
def Moment.Advances (m : Moment Rat) : Prop :=
  ∀ stage p, m.event = .pivot stage p → ∃ r, m.tableau.rows[p.row]? = some r ∧ 0 < r.row.rhs

/-- All pivots of the loops are in rows whose right-hand sides are above zero. -/
def Report.Advances (r : Report Rat) : Prop :=
  ∀ x ∈ r.steps, Moment.Advances ⟨x.event, x.tableau⟩

theorem Moment.advances_pivot_iff {stage : Stage} {p : Pivot Rat} {t : Tableau Rat} :
    Advances ⟨.pivot stage p, t⟩ ↔ ∃ r ∈ t.rows[p.row]?, 0 < r.row.rhs := by
  constructor
  · exact fun advances => advances stage p rfl
  · rintro ⟨r, at_row, positive⟩ _ _ ⟨⟩
    exact ⟨r, at_row, positive⟩

instance (m : Moment Rat) : Decidable m.Advances :=
  match m with
  | ⟨.pivot _ _, _⟩ => decidable_of_iff' _ Moment.advances_pivot_iff
  | ⟨.start, _⟩ | ⟨.priceArtificials, _⟩ | ⟨.driveOut _, _⟩ | ⟨.restoreObjective, _⟩
  | ⟨.finish .., _⟩ => isTrue nofun

namespace Tableau

variable {stage : Stage} {t u : Tableau Rat} {k n : Nat}

/-! ## One loop -/

theorem visited_improve_succ {c i : Nat} (entering : t.enteringColumn (stage == .first) = some c)
    (leaving : t.leavingRow c = some i) (k n : Nat) :
    (t.improve stage (k + 1) n).visited =
      t :: ((t.pivot i c).improve stage k (n + 1)).visited := by
  rw [improve_succ_of_some entering leaving]
  rfl

/-- A loop has been in its first tableau only if it makes no pivot, and else goes on from its first
pivot. -/
theorem visited_improve_cases (stage : Stage) (k n : Nat) (t : Tableau Rat) :
    (t.improve stage k n).visited = [t] ∨
    ∃ j c i, k = j + 1 ∧ t.enteringColumn (stage == .first) = some c ∧
      t.leavingRow c = some i := by
  cases entering : t.enteringColumn (stage == .first) with
  | none =>
    rw [improve_of_none entering]
    exact Or.inl rfl
  | some c =>
    cases k with
    | zero =>
      rw [improve_zero_of_some entering]
      exact Or.inl rfl
    | succ j =>
      cases leaving : t.leavingRow c with
      | none =>
        rw [improve_succ_of_none entering leaving]
        exact Or.inl rfl
      | some i => exact Or.inr ⟨j, c, i, rfl, rfl, leaving⟩

/-- In either case its first tableau is the one that it starts from. -/
theorem self_mem_visited (stage : Stage) (k n : Nat) (t : Tableau Rat) :
    t ∈ (t.improve stage k n).visited := by
  rcases visited_improve_cases stage k n t with only | ⟨_, _, _, rfl, entering, leaving⟩
  · rw [only]
    exact List.mem_singleton_self t
  · rw [visited_improve_succ entering leaving]
    exact List.mem_cons_self

theorem reach_of_mem_visited :
    ∀ u ∈ (t.improve stage k n).visited, LoopReach (stage == .first) t u := by
  induction k generalizing t n with
  | zero =>
    rcases visited_improve_cases stage 0 n t with only | ⟨_, _, _, impossible, _⟩
    · rw [only]
      simp [Relation.ReflTransGen.refl]
    · cases impossible
  | succ k ih =>
    rcases visited_improve_cases stage (k + 1) n t with only | ⟨_, c, i, _, entering, leaving⟩
    · rw [only]
      simp [Relation.ReflTransGen.refl]
    · rw [visited_improve_succ entering leaving]
      refine List.forall_mem_cons.mpr ⟨.refl, fun u mem => ?_⟩
      exact .head (.pivot entering leaving) (ih u mem)

/-- The right-hand side of the objective row does not fall along a loop. -/
theorem IsVertex.rhs_le_of_reach (vertex : t.IsVertex) {withArtificials : Bool}
    (reach : LoopReach withArtificials t u) : t.objective.rhs ≤ u.objective.rhs := by
  refine (reach.keeps (P := fun v => v.IsVertex ∧ t.objective.rhs ≤ v.objective.rhs)
    (fun step kept => ?_) ⟨vertex, le_rfl⟩).2
  obtain ⟨here, above⟩ := kept
  cases step with
  | pivot entering leaving =>
    obtain ⟨_, inside, _, _⟩ := here.entering entering
    obtain ⟨r, at_i, _⟩ := leavingRow_eq_some_iff.mp leaving
    exact ⟨(here.pivot inside leaving).1,
      above.trans (here.rhs_objective_pivot entering leaving at_i).1⟩

/-- It rises from each tableau of a loop to every later one, if all pivots make progress. -/
theorem IsVertex.pairwise_visited (vertex : t.IsVertex)
    (advances : ∀ m ∈ (t.improve stage k n).moments, m.Advances) :
    (t.improve stage k n).visited.Pairwise fun u v => u.objective.rhs < v.objective.rhs := by
  induction k generalizing t n with
  | zero =>
    rcases visited_improve_cases stage 0 n t with only | ⟨_, _, _, impossible, _⟩
    · rw [only]
      exact List.pairwise_singleton _ _
    · cases impossible
  | succ k ih =>
    rcases visited_improve_cases stage (k + 1) n t with only | ⟨_, c, i, _, entering, leaving⟩
    · rw [only]
      exact List.pairwise_singleton _ _
    · rw [improve_succ_of_some entering leaving] at advances
      obtain ⟨first, later⟩ := List.forall_mem_cons.mp advances
      obtain ⟨r, at_i, positive⟩ := first stage _ rfl
      obtain ⟨_, inside, _, _⟩ := vertex.entering entering
      have next := (vertex.pivot inside leaving).1
      have rises := (vertex.rhs_objective_pivot entering leaving at_i).2.mpr positive
      rw [visited_improve_succ entering leaving]
      refine List.pairwise_cons.mpr ⟨fun u mem => ?_, ih next later⟩
      exact rises.trans_le (next.rhs_le_of_reach (reach_of_mem_visited u mem))

/-- Tableaux of one loop with the same basic variables have the same objective row, whichever rows
the variables are basic in. -/
theorem IsVertex.objective_eq_of_basis (vertex : t.IsVertex) (other : u.IsVertex)
    (same : t.Equivalent u) (basis : t.basis.toFinset = u.basis.toFinset) :
    u.objective = t.objective := by
  refine vertex.canonical.objective_eq same (fun q mem => ?_) other.canonical
  have basic : q.basic ∈ u.basis.toFinset := by
    rw [← basis]
    exact List.mem_toFinset.mpr (List.mem_map_of_mem mem)
  obtain ⟨s, s_mem, eq⟩ := List.mem_map.mp (List.mem_toFinset.mp basic)
  exact ⟨s, s_mem, eq⟩

/-- In a loop that makes progress, no set of basic variables comes back. -/
theorem IsVertex.pairwise_basis_ne (vertex : t.IsVertex)
    (advances : ∀ m ∈ (t.improve stage k n).moments, m.Advances) :
    (t.improve stage k n).visited.Pairwise fun u v => u.basis.toFinset ≠ v.basis.toFinset := by
  refine (vertex.pairwise_visited advances).imp_of_mem fun {u v} u_mem v_mem rises basis => ?_
  obtain ⟨left, left_same⟩ := vertex.reach (reach_of_mem_visited u u_mem)
  obtain ⟨right, right_same⟩ := vertex.reach (reach_of_mem_visited v v_mem)
  rw [left.objective_eq_of_basis right (left_same.symm.trans right_same) basis] at rises
  exact lt_irrefl _ rises

/-- The basic variables are as many as the rows, out of all variable columns. -/
theorem Solved.basis_mem_powersetCard (solved : t.Solved) :
    t.basis.toFinset ∈ (Finset.range t.layout.width).powersetCard t.rows.length := by
  refine Finset.mem_powersetCard.mpr ⟨fun c mem => ?_, ?_⟩
  · obtain ⟨r, r_mem, rfl⟩ := List.mem_map.mp (List.mem_toFinset.mp mem)
    exact Finset.mem_range.mpr (solved.inside r r_mem)
  · have nodup : t.basis.Nodup := solved.nodup_basics
    rw [List.toFinset_card_of_nodup nodup, basis, List.length_map]

/-- A loop that makes progress is in no more tableaux than there are sets of basic variables. -/
theorem IsVertex.length_visited_le (vertex : t.IsVertex)
    (advances : ∀ m ∈ (t.improve stage k n).moments, m.Advances) :
    (t.improve stage k n).visited.length ≤ t.layout.width.choose t.rows.length := by
  let bases := (t.improve stage k n).visited.map fun u => u.basis.toFinset
  have nodup : bases.Nodup := List.pairwise_map.mpr (vertex.pairwise_basis_ne advances)
  have inside : bases.toFinset ⊆ (Finset.range t.layout.width).powersetCard t.rows.length := by
    intro basis mem
    obtain ⟨u, u_mem, rfl⟩ := List.mem_map.mp (List.mem_toFinset.mp mem)
    have reach := reach_of_mem_visited u u_mem
    obtain ⟨last, same⟩ := vertex.reach reach
    have rows : u.rows.length = t.rows.length :=
      reach.keeps (P := fun v => v.rows.length = t.rows.length)
        (fun step kept => by cases step; simpa using kept) rfl
    rw [← rows, ← same.layout]
    exact last.solved.basis_mem_powersetCard
  calc (t.improve stage k n).visited.length = bases.length := (List.length_map _).symm
    _ = bases.toFinset.card := (List.toFinset_card_of_nodup nodup).symm
    _ ≤ ((Finset.range t.layout.width).powersetCard t.rows.length).card :=
      Finset.card_le_card inside
    _ = t.layout.width.choose t.rows.length := by
      rw [Finset.card_powersetCard, Finset.card_range]

end Tableau

/-- A name of the basis that belongs to a variable column says that the column is basic. -/
theorem Tableau.Solved.mem_basis_of_label {t : Tableau Rat} (solved : t.Solved)
    (labels : t.layout.labels.Nodup) {c : Nat} (inside : c < t.layout.width)
    (mem : t.layout.label c ∈ t.basisNames) : c ∈ t.basis := by
  rcases List.mem_append.mp mem with basic | objective
  · obtain ⟨r, r_mem, same⟩ := List.mem_map.mp basic
    rw [← Layout.label_injOn labels (solved.inside r r_mem) inside same]
    exact List.mem_map_of_mem r_mem
  · exact absurd (List.mem_singleton.mp objective) (Layout.label_ne_objectiveLabel labels inside)

/-- With distinct labels, the names of the basic variables tell which columns are basic. -/
theorem Tableau.Solved.basis_eq_of_basisNames {t u : Tableau Rat} (solved : t.Solved)
    (other : u.Solved) (layout : u.layout = t.layout) (labels : t.layout.labels.Nodup)
    (names : t.basisNames.toFinset = u.basisNames.toFinset) :
    t.basis.toFinset = u.basis.toFinset := by
  have named : ∀ {v : Tableau Rat}, v.layout = t.layout → ∀ r ∈ v.rows,
      t.layout.label r.basic ∈ v.basisNames := by
    intro v same r mem
    rw [← same]
    exact List.mem_append_left _ (List.mem_map_of_mem mem)
  ext c
  rw [List.mem_toFinset, List.mem_toFinset]
  constructor
  · intro mem
    obtain ⟨r, r_mem, rfl⟩ := List.mem_map.mp mem
    have in_u := List.mem_toFinset.mp (names ▸ List.mem_toFinset.mpr (named rfl r r_mem))
    refine other.mem_basis_of_label (layout ▸ labels) ?_ (layout ▸ in_u)
    exact layout ▸ solved.inside r r_mem
  · intro mem
    obtain ⟨r, r_mem, rfl⟩ := List.mem_map.mp mem
    have in_t := List.mem_toFinset.mp (names ▸ List.mem_toFinset.mpr (named layout r r_mem))
    exact solved.mem_basis_of_label labels (layout ▸ other.inside r r_mem) in_t

/-! ## A whole run -/

/-- In a loop that makes progress, where a run comes later it has other basic variables. -/
theorem Course.basis_ne {s : Solver Rat} {start : Tableau Rat} {a b : Configuration Rat}
    {m : Moment Rat} {ms : List (Moment Rat)} {stage : Stage}
    (between : Course s start a (m :: ms) b) (entered : a.control = .improving stage)
    (stays : b.control = .improving stage) (vertex : a.tableau.IsVertex)
    (advances : ∀ m' ∈ m :: ms, m'.Advances) :
    m.tableau.basis.toFinset ≠ b.tableau.basis.toFinset := by
  obtain ⟨recorded, ended⟩ := between.loop_eq entered stays
  rw [recorded] at advances
  have distinct := vertex.pairwise_basis_ne advances
  rw [Trail.visited, ← recorded, ← ended, List.map_cons, List.cons_append] at distinct
  exact (List.pairwise_cons.mp distinct).1 b.tableau (by simp)

/-- Every pivot of a loop is counted. -/
theorem Tableau.iterations_improve [Scalar α] (stage : Stage) (k n : Nat) (t : Tableau α) :
    (t.improve stage k n).iterations = n + (t.improve stage k n).moments.length := by
  induction k generalizing t n with
  | zero =>
    unfold improve
    split <;> rfl
  | succ k ih =>
    unfold improve
    split
    · rfl
    · split
      · rfl
      · simp [Trail.after, ih, Nat.add_assoc, Nat.add_comm]

namespace Solver

open Tableau

variable {p : Problem Rat} {tolerance : Rat} {twoPhase : Bool} {t : Tableau Rat} {n : Nat}

theorem advances_moments_iff (s : Solver Rat) (p : Problem Rat) (t : Tableau Rat) :
    (∀ m ∈ s.moments p t, m.Advances) ↔ ∀ m ∈ (s.trail t).moments, m.Advances := by
  have finish : Moment.Advances ⟨.finish (s.trail t).verdict (s.solution p (s.trail t)),
      (s.trail t).tableau⟩ := nofun
  rw [moments, List.forall_mem_append]
  simp [finish]

theorem advances_report_iff (s : Solver Rat) (p : Problem Rat) (t : Tableau Rat) :
    (s.report p (s.trail t)).Advances ↔ ∀ m ∈ (s.trail t).moments, m.Advances := by
  rw [← s.advances_moments_iff p t, Report.Advances, report_steps]
  constructor
  · intro advances m mem
    obtain ⟨k, at_k⟩ := List.mem_iff_getElem?.mp mem
    refine advances ⟨k + 1, m.event, m.tableau⟩ (List.mem_of_getElem? (i := k) ?_)
    rw [Step.getElem?_ofMoments, at_k]
    rfl
  · intro advances x mem
    obtain ⟨k, m, at_k, rfl⟩ := Step.mem_ofMoments _ mem
    exact advances m (List.mem_of_getElem? at_k)

/-- One run that is not cut short tells of all budgets whether their pivots make progress. -/
theorem advances_of_finished (s : Solver Rat) (finished : (s.trail t).verdict ≠ .limitReached)
    (advances : ∀ m ∈ (s.trail t).moments, m.Advances) (n : Nat) :
    ∀ m ∈ ({ s with maxIterations := n }.trail t).moments, m.Advances := by
  rcases Nat.le_total n s.maxIterations with le | le
  · obtain ⟨extra, budget⟩ := Nat.exists_eq_add_of_le le
    have cut := cutShort_trail { s with maxIterations := n } extra t
    have larger : extend { s with maxIterations := n } extra = s := by
      cases s
      cases budget
      rfl
    rw [larger] at cut
    by_cases limit : ({ s with maxIterations := n }.trail t).verdict = .limitReached
    · exact fun m mem => advances m ((cut.spent limit).2.subset mem)
    · exact cut.same limit ▸ advances
  · obtain ⟨extra, rfl⟩ := Nat.exists_eq_add_of_le le
    have same := (s.cutShort_trail extra t).same finished
    exact fun m mem => advances m (same ▸ mem)

/-- Where the first phase hands over, driving out leads to a vertex. -/
theorem isVertex_drivenOut (s : Solver Rat) (sized : p.WellSized) (nonneg : 0 ≤ s.tolerance)
    (finished : (s.firstPhase (ofProblem p)).verdict ≠ .limitReached)
    (within : ¬ s.tolerance * (ofProblem p).rhsScale < s.residual (ofProblem p)) :
    (s.drivenOut (ofProblem p)).IsVertex ∧ (s.drivenOut (ofProblem p)).layout = p.layout := by
  have first := s.course_firstPhase (ofProblem p)
  rw [last_firstPhase] at first
  have pending : Pending s (ofProblem p) (.improving .first) (s.firstPhase (ofProblem p)).tableau
      (List.range (s.firstPhase (ofProblem p)).tableau.constraintCount) :=
    .handOver (stopped_improve finished) within
  obtain ⟨_, _, exchanged⟩ :=
    course_driveOut (n := (s.firstPhase (ofProblem p)).iterations) pending
  have start := isVertex_ofProblem sized
  exact (first.append exchanged).keeps
    (I := fun a => a.tableau.IsVertex ∧ a.tableau.layout = (ofProblem p).layout)
    (fun step kept => (step.isVertex nonneg start.canonical.objective_width kept).1)
    ⟨isVertex_priceArtificials sized, rfl⟩

/-- A run whose pivots all make progress does not spend a budget of twice as many pivots as there
are sets of basic variables. -/
theorem maxIterations_lt_of_limitReached (s : Solver Rat) (sized : p.WellSized)
    (nonneg : 0 ≤ s.tolerance) (advances : ∀ m ∈ (s.trail (ofProblem p)).moments, m.Advances)
    (limit : (s.trail (ofProblem p)).verdict = .limitReached) :
    s.maxIterations < 2 * p.layout.width.choose p.constraints.length := by
  -- A loop is in one tableau more than it makes pivots.
  have loop : ∀ {stage k n} {u : Tableau Rat}, u.IsVertex → u.layout = p.layout →
      u.rows.length = p.constraints.length →
      (u.improve stage k n).moments <:+: (s.trail (ofProblem p)).moments →
      (u.improve stage k n).moments.length < p.layout.width.choose p.constraints.length := by
    intro stage k n u vertex layout rows part
    have bound := vertex.length_visited_le fun m mem => advances m (part.subset mem)
    rw [layout, rows, Trail.visited, List.length_append, List.length_map] at bound
    exact bound
  have rows := length_rows_ofProblem p
  by_cases none : p.layout.artificials = 0
  · have only := loop (isVertex_ofProblem sized) rfl rows
      (s.onlyLoop_infix_trail (t := ofProblem p) none)
    rw [(s.trail_of_no_artificials (t := ofProblem p) none).2] at limit
    rw [length_moments_improve limit] at only
    omega
  · have first := loop (isVertex_priceArtificials sized) rfl rows
      (s.firstPhase_infix_trail (t := ofProblem p) none)
    rcases s.trail_cases (t := ofProblem p) none with
      ⟨spent, _⟩ | ⟨_, _, infeasible⟩ | ⟨finished, within, _, verdict⟩
    · rw [length_moments_improve spent] at first
      omega
    · cases infeasible.symm.trans limit
    · obtain ⟨vertex, layout⟩ := s.isVertex_drivenOut sized nonneg finished within
      have width :
          (ofProblem p).objective.cells.length = (s.drivenOut (ofProblem p)).layout.width := by
        rw [layout]
        exact (isVertex_ofProblem sized).canonical.objective_width
      have second := loop (vertex.loadObjective width) layout
        ((s.length_rows_drivenOut (ofProblem p)).trans rows)
        (s.secondLoop_infix_trail none finished within)
      rw [length_moments_improve (verdict.symm.trans limit), firstPhase, iterations_improve,
        Nat.zero_add] at second
      omega

/-- Two steps that show tableaux of one loop do not have the same basic variables, if all pivots
make progress. -/
theorem basisNames_ne_of_atLoop (s : Solver Rat) (sized : p.WellSized)
    (labels : p.layout.labels.Nodup) (nonneg : 0 ≤ s.tolerance)
    (advances : ∀ m ∈ (s.trail (ofProblem p)).moments, m.Advances)
    {stage : Stage} {j k : Nat} {x y : Step Rat} (before : j < k)
    (x_inside : (s.report p (s.trail (ofProblem p))).AtLoop stage j)
    (y_inside : (s.report p (s.trail (ofProblem p))).AtLoop stage k)
    (x_at : (s.report p (s.trail (ofProblem p))).steps[j]? = some x)
    (y_at : (s.report p (s.trail (ofProblem p))).steps[k]? = some y) :
    x.tableau.basisNames.toFinset ≠ y.tableau.basisNames.toFinset := by
  obtain ⟨a, _, b, _, to_a, at_a, between, to_b, at_b⟩ := s.course_between _ before x_at y_at
  have stays := s.control_of_atLoop to_b (s.getElem?_moments_of_step y_at) at_b y_inside
  have entered := s.control_of_atLoop to_a (s.getElem?_moments_of_step x_at) at_a x_inside
  have kept := s.accounted_of_course sized nonneg to_a
  have width := (isVertex_ofProblem sized).canonical.objective_width
  obtain ⟨x_vertex, x_layout⟩ := (at_a.isVertex nonneg width ⟨kept.vertex, kept.layout⟩).2
  have kept' := s.accounted_of_course sized nonneg to_b
  obtain ⟨y_vertex, y_layout⟩ := (at_b.isVertex nonneg width ⟨kept'.vertex, kept'.layout⟩).2
  have shown : y.tableau = y.event.setup (ofProblem p).objective.cells b.tableau := at_b.tableau_eq
  have y_basis : y.tableau.basis = b.tableau.basis := by
    rw [shown, basis, Event.setup_rows, basis]
  have distinct := (Course.cons at_a between).basis_ne entered stays kept.vertex fun m mem => ?_
  · intro same
    refine distinct ?_
    rw [← y_basis]
    exact x_vertex.solved.basis_eq_of_basisNames y_vertex.solved (y_layout.trans x_layout.symm)
      (x_layout ▸ labels) same
  · refine (s.advances_moments_iff p (ofProblem p)).mpr advances m ?_
    rcases List.mem_cons.mp mem with rfl | later
    · exact List.mem_of_getElem? (s.getElem?_moments_of_step x_at)
    · exact List.mem_of_mem_take (List.mem_of_mem_drop later)

/-- If, whatever the budget, all pivots of the loops are in rows whose right-hand sides are above
zero, then no loop of any run comes back to a set of basic variables, and twice as many pivots as
there are such sets are enough. -/
theorem solve_advancing (valid : p.validate twoPhase = .ok ()) (nonneg : 0 ≤ tolerance)
    (advances : ∀ n r, (Solver.mk n tolerance twoPhase).solve p = .ok r → r.Advances) (n : Nat) :
    ∃ r, (Solver.mk n tolerance twoPhase).solve p = .ok r ∧
      (∀ stage j k x y, j ≠ k → r.AtLoop stage j → r.AtLoop stage k → r.steps[j]? = some x →
        r.steps[k]? = some y → x.tableau.basisNames.toFinset ≠ y.tableau.basisNames.toFinset) ∧
      (2 * p.layout.width.choose p.constraints.length ≤ n →
        r.solution.status ≠ .iterationLimitReached) := by
  have sized := p.wellSized_of_validate valid
  have labels := p.nodup_labels_of_validate valid
  have solved := (Solver.mk n tolerance twoPhase).solve_of_validate valid
  have progress := ((Solver.mk n tolerance twoPhase).advances_report_iff p (ofProblem p)).mp
    (advances n _ solved)
  refine ⟨_, solved, fun stage j k x y ne x_in y_in x_at y_at => ?_, fun enough status => ?_⟩
  · rcases Nat.lt_or_gt_of_ne ne with before | after
    · exact basisNames_ne_of_atLoop _ sized labels nonneg progress before x_in y_in x_at y_at
    · exact (basisNames_ne_of_atLoop _ sized labels nonneg progress after y_in x_in y_at x_at).symm
  · have limit : ((Solver.mk n tolerance twoPhase).trail (ofProblem p)).verdict = .limitReached :=
      Verdict.eq_limitReached_of_status status
    have spent := (Solver.mk n tolerance twoPhase).maxIterations_lt_of_limitReached sized nonneg
      progress limit
    exact absurd spent (not_lt.mpr enough)

/-- Two lower bounds take two pivots of the first phase, and its last point is not yet the best. -/
def twoDemands : Problem Rat :=
  { names := ["x1", "x2"]
    objective := ⟨[3, 5], .maximize⟩
    constraints := [⟨"near", [1, 1], .ge, 2⟩, ⟨"far", [1, 3], .ge, 3⟩, ⟨"total", [1, 2], .le, 8⟩] }

theorem advances_twoDemands (n : Nat) (r : Report Rat)
    (solved : (Solver.mk n (1 / 10 ^ 9) true).solve twoDemands = .ok r) : r.Advances := by
  rw [solve_of_validate _ (rfl : twoDemands.validate true = .ok ())] at solved
  cases solved
  refine (advances_report_iff _ _ _).mpr ?_
  exact advances_of_finished (Solver.mk 10 (1 / 10 ^ 9) true) (by decide +kernel)
    (by decide +kernel) n

theorem solve_advancing_twoDemands :
    ∃ r, (Solver.mk 70 (1 / 10 ^ 9) true).solve twoDemands = .ok r ∧
      (∀ stage j k x y, j ≠ k → r.AtLoop stage j → r.AtLoop stage k → r.steps[j]? = some x →
        r.steps[k]? = some y → x.tableau.basisNames.toFinset ≠ y.tableau.basisNames.toFinset) ∧
      r.solution.status ≠ .iterationLimitReached ∧
      r.pivots.map (fun p => (p.leaving, p.entering)) =
        [("a2", "x2"), ("a1", "x1"), ("x2", "s1"), ("s3", "s2")] := by
  obtain ⟨r, solved, distinct, enough⟩ := solve_advancing (p := twoDemands)
    (rfl : twoDemands.validate true = .ok ()) (by decide +kernel : (0 : Rat) ≤ 1 / 10 ^ 9)
    advances_twoDemands 70
  exact ⟨r, solved, distinct, enough (by decide +kernel),
    eq_of_solve (·.pivots.map fun p => (p.leaving, p.entering)) solved (by decide +kernel)⟩

end Solver

end LinearProgram

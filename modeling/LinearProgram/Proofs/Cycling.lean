import Mathlib.Algebra.Order.Field.Basic
import Mathlib.Data.Fintype.BigOperators
import LinearProgram.Proofs.Basis
import LinearProgram.Proofs.Budget
import LinearProgram.Proofs.FirstPhase

/-!
# Loops that go round

Nothing keeps the loop from coming back to a tableau, and if it does, it goes
round until the budget is spent.  This is the only way not to end.  There are
no more tableaux than lists of basic columns, so a loop that is long enough
comes back to one; and since pivots never lower the right-hand side of the
objective row, all pivots from there to there are in rows whose own right-hand
side is zero.

* `Tableau.limitReached_of_return`: a loop that comes back never ends.
* `Tableau.IsVertex.limitReached_of_large`: a loop that is longer than there are
  lists of basic columns never ends.
* `Tableau.IsVertex.recurs_improve`: what such a loop records.
-/

namespace LinearProgram

/-! ## Going on from where a loop stopped -/

namespace Tableau

section Continue

variable {α : Type} [Scalar α] {stage : Stage} {t : Tableau α} {j k n : Nat}

theorem improve_zero_of_some {c : Nat} (entering : t.enteringColumn (stage == .first) = some c)
    (n : Nat) : t.improve stage 0 n = ⟨[], t, n, stage, .limitReached⟩ := by
  simp [improve, entering]

/-- A loop that has spent its budget goes on with a larger one from where it stopped. -/
theorem improve_add (limit : (t.improve stage k n).verdict = .limitReached) (more : Nat) :
    t.improve stage (k + more) n =
      ((t.improve stage k n).tableau.improve stage more (n + k)).after
        (t.improve stage k n).moments := by
  induction k generalizing t n with
  | zero =>
    cases entering : t.enteringColumn (stage == .first) with
    | none =>
      rw [improve_of_none entering] at limit
      cases limit
    | some c =>
      rw [improve_zero_of_some entering, Nat.zero_add]
      rfl
  | succ k ih =>
    cases entering : t.enteringColumn (stage == .first) with
    | none =>
      rw [improve_of_none entering] at limit
      cases limit
    | some c =>
      cases leaving : t.leavingRow c with
      | none =>
        rw [improve_succ_of_none entering leaving] at limit
        cases limit
      | some i =>
        rw [improve_succ_of_some entering leaving] at limit ⊢
        rw [Nat.add_right_comm k 1 more, improve_succ_of_some entering leaving, ih limit,
          Nat.add_right_comm n 1 k]
        rfl

theorem limitReached_of_le (le : j ≤ k) (limit : (t.improve stage k n).verdict = .limitReached) :
    (t.improve stage j n).verdict = .limitReached := by
  obtain ⟨more, rfl⟩ := Nat.exists_eq_add_of_le le
  by_contra finished
  rw [(cutShort_improve stage j more n t).same finished] at limit
  exact finished limit

/-- The count of pivots so far has no influence on how a loop ends. -/
theorem verdict_improve (stage : Stage) (k n n' : Nat) (t : Tableau α) :
    (t.improve stage k n).verdict = (t.improve stage k n').verdict := by
  induction k generalizing t n n' with
  | zero =>
    unfold improve
    split <;> rfl
  | succ k ih =>
    unfold improve
    split
    · rfl
    · split
      · rfl
      · exact ih _ _ _

theorem verdict_improve_add (limit : (t.improve stage k n).verdict = .limitReached) (more : Nat) :
    (t.improve stage (k + more) n).verdict =
      ((t.improve stage k n).tableau.improve stage more n).verdict := by
  rw [improve_add limit]
  exact verdict_improve stage more _ _ _

/-- A loop that comes back to a tableau never ends. -/
theorem limitReached_of_return (before : j < k)
    (limit : (t.improve stage k n).verdict = .limitReached)
    (back : (t.improve stage k n).tableau = (t.improve stage j n).tableau) (budget : Nat) :
    (t.improve stage budget n).verdict = .limitReached := by
  induction budget using Nat.strong_induction_on with
  | h budget ih =>
    rcases Nat.le_total budget k with le | le
    · exact limitReached_of_le le limit
    · -- Past the return, the loop ends as it does from the first visit on.
      obtain ⟨more, rfl⟩ := Nat.exists_eq_add_of_le le
      rw [verdict_improve_add limit, back,
        ← verdict_improve_add (limitReached_of_le before.le limit)]
      exact ih (j + more) (Nat.add_lt_add_right before more)

/-! ## What it records -/

theorem length_moments_improve (limit : (t.improve stage k n).verdict = .limitReached) :
    (t.improve stage k n).moments.length = k := by
  induction k generalizing t n with
  | zero =>
    unfold improve
    split <;> rfl
  | succ k ih =>
    unfold improve at limit ⊢
    split at limit
    · cases limit
    · split at limit
      · cases limit
      · simpa [Trail.after] using ih limit

/-- A loop records each tableau at which a smaller budget would have stopped it. -/
theorem getElem?_moments_improve (limit : (t.improve stage k n).verdict = .limitReached)
    (inside : j < k) :
    ∃ m, (t.improve stage k n).moments[j]? = some m ∧
      m.tableau = (t.improve stage j n).tableau := by
  obtain ⟨more, rfl⟩ := Nat.exists_eq_add_of_lt inside
  have stopped := limitReached_of_le (Nat.le_add_right j (more + 1)) limit
  rw [Nat.add_assoc, improve_add stopped] at limit ⊢
  show ∃ m, ((t.improve stage j n).moments ++ _)[j]? = some m ∧ _
  rw [List.getElem?_append_right (length_moments_improve stopped).le,
    length_moments_improve stopped, Nat.sub_self]
  generalize (t.improve stage j n).tableau = u at limit ⊢
  cases entering : u.enteringColumn (stage == .first) with
  | none =>
    rw [improve_of_none entering] at limit
    cases limit
  | some c =>
    cases leaving : u.leavingRow c with
    | none =>
      rw [improve_succ_of_none entering leaving] at limit
      cases limit
    | some i =>
      rw [improve_succ_of_some entering leaving]
      exact ⟨_, rfl, rfl⟩

end Continue

/-! ## As many tableaux as lists of basic columns -/

variable {stage : Stage} {t : Tableau Rat} {c i j k n : Nat} {r : BasicRow Rat}

theorem length_rows_improve (stage : Stage) (k n : Nat) (t : Tableau Rat) :
    (t.improve stage k n).tableau.rows.length = t.rows.length := by
  refine (reach_improve stage k n t).keeps (P := fun v => v.rows.length = t.rows.length)
    (fun step kept => ?_) rfl
  cases step
  simpa using kept

/-- A loop that comes back to its basic columns has come back to its tableau. -/
theorem IsVertex.improve_eq_of_basis_eq (vertex : t.IsVertex)
    (same : (t.improve stage k n).tableau.basis = (t.improve stage j n).tableau.basis) :
    (t.improve stage k n).tableau = (t.improve stage j n).tableau := by
  obtain ⟨left, left_same⟩ := vertex.reach (reach_improve stage j n t)
  obtain ⟨right, right_same⟩ := vertex.reach (reach_improve stage k n t)
  exact left.canonical.eq_of_basis_eq right.canonical (left_same.symm.trans right_same) same

/-- Before a loop has been in more tableaux than there are lists of basic columns, it is in one of
them for the second time, or has stopped there. -/
theorem IsVertex.exists_return (vertex : t.IsVertex) (stage : Stage) (n : Nat) :
    ∃ j k, j < k ∧ k ≤ t.layout.width ^ t.rows.length ∧
      (t.improve stage k n).tableau = (t.improve stage j n).tableau := by
  let basics : Nat → Fin t.rows.length → Nat :=
    fun k i => (t.improve stage k n).tableau.basis.getD i 0
  have length : ∀ k, (t.improve stage k n).tableau.basis.length = t.rows.length := by
    intro k
    simpa [basis] using length_rows_improve stage k n t
  have inside : ∀ k ∈ Finset.range (t.layout.width ^ t.rows.length + 1),
      basics k ∈ Fintype.piFinset fun _ => Finset.range t.layout.width := by
    intro k _
    obtain ⟨last, same⟩ := vertex.reach (reach_improve stage k n t)
    refine Fintype.mem_piFinset.mpr fun i => Finset.mem_range.mpr ?_
    have i_lt : i < (t.improve stage k n).tableau.basis.length := (length k).symm ▸ i.isLt
    obtain ⟨r, mem, basic⟩ := List.mem_map.mp (List.getElem_mem i_lt)
    show List.getD _ _ _ < _
    rw [List.getD_eq_getElem _ _ i_lt, ← basic, ← same.layout]
    exact last.solved.inside r mem
  have back : ∀ {j k}, basics j = basics k →
      (t.improve stage k n).tableau = (t.improve stage j n).tableau := by
    intro j k eq
    apply vertex.improve_eq_of_basis_eq
    refine List.ext_getElem (by rw [length, length]) fun i left right => ?_
    have at_i := congrFun eq ⟨i, length k ▸ left⟩
    simpa [basics, left, right] using at_i.symm
  obtain ⟨j, j_mem, k, k_mem, ne, eq⟩ :=
    Finset.exists_ne_map_eq_of_card_lt_of_maps_to (by simp) inside
  have j_le := Finset.mem_range_succ_iff.mp j_mem
  have k_le := Finset.mem_range_succ_iff.mp k_mem
  rcases Nat.lt_or_gt_of_ne ne with before | after
  · exact ⟨j, k, before, k_le, back eq⟩
  · exact ⟨k, j, after, j_le, back eq.symm⟩

/-- A loop that is longer than there are lists of basic columns never ends. -/
theorem IsVertex.limitReached_of_large (vertex : t.IsVertex)
    (limit : (t.improve stage k n).verdict = .limitReached)
    (large : t.layout.width ^ t.rows.length ≤ k) (budget : Nat) :
    (t.improve stage budget n).verdict = .limitReached := by
  obtain ⟨i, j, before, inside, back⟩ := vertex.exists_return stage n
  exact limitReached_of_return before (limitReached_of_le (inside.trans large) limit) back budget

/-! ## No progress on the way round -/

theorem Canonical.rhs_objective_pivot (canonical : t.Canonical) (at_i : t.rows[i]? = some r)
    (c : Nat) : (t.pivot i c).objective.rhs =
      t.objective.rhs + -t.objective.entry c * (r.row.rhs / r.row.entry c) := by
  have width := canonical.length_objective_eq_solvedFor (List.mem_of_getElem? at_i) c
  rw [pivot_objective at_i, Row.rhs_eliminate width, r.rhs_solvedFor, sub_eq_add_neg, neg_mul]

/-- A pivot of the loop does not lower the right-hand side of the objective row, and raises it
exactly if its own row has one above zero. -/
theorem IsVertex.rhs_objective_pivot (vertex : t.IsVertex) {withArtificials : Bool}
    (entering : t.enteringColumn withArtificials = some c) (leaving : t.leavingRow c = some i)
    (at_i : t.rows[i]? = some r) :
    t.objective.rhs ≤ (t.pivot i c).objective.rhs ∧
      (t.objective.rhs < (t.pivot i c).objective.rhs ↔ 0 < r.row.rhs) := by
  obtain ⟨_, _, negative, _⟩ := vertex.entering entering
  obtain ⟨_, at_i', positive, _⟩ := leavingRow_eq_some_iff.mp leaving
  cases at_i.symm.trans at_i'
  have nonneg := vertex.feasible r (List.mem_of_getElem? at_i)
  have cost : 0 < -t.objective.entry c := neg_pos.mpr negative
  rw [vertex.canonical.rhs_objective_pivot at_i, lt_add_iff_pos_right,
    mul_pos_iff_of_pos_left cost, div_pos_iff_of_pos_right positive]
  exact ⟨le_add_of_nonneg_right (mul_nonneg cost.le (div_nonneg nonneg positive.le)), Iff.rfl⟩

end Tableau

/-- A pivot of one loop in a row whose right-hand side is zero.  The basic point stays where it
is. -/
def Moment.Stalls (stage : Stage) (m : Moment Rat) : Prop :=
  ∃ p r, m.event = .pivot stage p ∧ m.tableau.rows[p.row]? = some r ∧ r.row.rhs = 0

/-- One loop goes round: pivots that all stall lead from a tableau back to it. -/
def Recurs (stage : Stage) (ms : List (Moment Rat)) : Prop :=
  ∃ (j k : Nat) (x y : Moment Rat), j < k ∧ ms[j]? = some x ∧ ms[k]? = some y ∧
    y.tableau = x.tableau ∧
    ∀ (i : Nat) (z : Moment Rat), j ≤ i → i < k → ms[i]? = some z → z.Stalls stage

theorem Recurs.mono {stage : Stage} {ms ns : List (Moment Rat)} (recurs : Recurs stage ms)
    (infix_ns : ms <:+: ns) : Recurs stage ns := by
  obtain ⟨before, after, rfl⟩ := infix_ns
  have shift : ∀ i < ms.length, (before ++ ms ++ after)[before.length + i]? = ms[i]? := by
    intro i i_lt
    rw [List.append_assoc, List.getElem?_append_right (Nat.le_add_right _ _),
      Nat.add_sub_cancel_left, List.getElem?_append_left i_lt]
  obtain ⟨j, k, x, y, lt, at_j, at_k, back, stalls⟩ := recurs
  have k_lt : k < ms.length := (List.getElem?_eq_some_iff.mp at_k).1
  refine ⟨before.length + j, before.length + k, x, y, by omega, ?_, ?_, back, ?_⟩
  · rw [shift j (by omega), at_j]
  · rw [shift k k_lt, at_k]
  · intro i z j_le i_lt at_i
    obtain ⟨i, rfl⟩ := Nat.exists_eq_add_of_le (show before.length ≤ i by omega)
    rw [shift i (by omega)] at at_i
    exact stalls i z (by omega) (by omega) at_i

namespace Tableau

variable {stage : Stage} {t : Tableau Rat} {k n : Nat}

theorem IsVertex.rhs_le_of_mem_improve (vertex : t.IsVertex) (stage : Stage) (k n : Nat) :
    ∀ m ∈ (t.improve stage k n).moments, t.objective.rhs ≤ m.tableau.objective.rhs := by
  induction k generalizing t n with
  | zero =>
    unfold improve
    split <;> simp
  | succ k ih =>
    cases entering : t.enteringColumn (stage == .first) with
    | none => simp [improve_of_none entering]
    | some c =>
      cases leaving : t.leavingRow c with
      | none => simp [improve_succ_of_none entering leaving]
      | some i =>
        obtain ⟨_, inside, _, _⟩ := vertex.entering entering
        obtain ⟨r, at_i, _⟩ := leavingRow_eq_some_iff.mp leaving
        have up := (vertex.rhs_objective_pivot entering leaving at_i).1
        have later := ih (vertex.pivot inside leaving).1 (n + 1)
        rw [improve_succ_of_some entering leaving]
        simpa [Trail.after] using fun m mem => up.trans (later m mem)

/-- Along a loop the right-hand side of the objective row does not fall, and it rises past every
pivot that does not stall. -/
theorem IsVertex.pairwise_improve (vertex : t.IsVertex) (stage : Stage) (k n : Nat) :
    (t.improve stage k n).moments.Pairwise fun m m' =>
      m.tableau.objective.rhs ≤ m'.tableau.objective.rhs ∧
        (m.Stalls stage ∨ m.tableau.objective.rhs < m'.tableau.objective.rhs) := by
  induction k generalizing t n with
  | zero =>
    unfold improve
    split <;> simp
  | succ k ih =>
    cases entering : t.enteringColumn (stage == .first) with
    | none => simp [improve_of_none entering]
    | some c =>
      cases leaving : t.leavingRow c with
      | none => simp [improve_succ_of_none entering leaving]
      | some i =>
        obtain ⟨_, inside, _, _⟩ := vertex.entering entering
        obtain ⟨r, at_i, _⟩ := leavingRow_eq_some_iff.mp leaving
        have next := (vertex.pivot inside leaving).1
        obtain ⟨le, lt_iff⟩ := vertex.rhs_objective_pivot entering leaving at_i
        rw [improve_succ_of_some entering leaving]
        refine List.pairwise_cons.mpr ⟨fun m mem => ?_, ih next (n + 1)⟩
        have later := next.rhs_le_of_mem_improve stage k (n + 1) m mem
        refine ⟨le.trans later, ?_⟩
        rcases (vertex.feasible r (List.mem_of_getElem? at_i)).eq_or_lt with zero | positive
        · exact Or.inl ⟨_, r, rfl, at_i, zero.symm⟩
        · exact Or.inr ((lt_iff.mpr positive).trans_le later)

/-- A loop that is longer than there are lists of basic columns records how it goes round. -/
theorem IsVertex.recurs_improve (vertex : t.IsVertex)
    (limit : (t.improve stage k n).verdict = .limitReached)
    (large : t.layout.width ^ t.rows.length < k) : Recurs stage (t.improve stage k n).moments := by
  obtain ⟨i, j, before, inside, back⟩ := vertex.exists_return stage n
  have ordered := List.pairwise_iff_getElem.mp (vertex.pairwise_improve stage k n)
  obtain ⟨x, at_i, x_tableau⟩ := getElem?_moments_improve limit (show i < k by omega)
  obtain ⟨y, at_j, y_tableau⟩ := getElem?_moments_improve limit (show j < k by omega)
  have same : y.tableau = x.tableau := by rw [y_tableau, back, x_tableau]
  refine ⟨i, j, x, y, before, at_i, at_j, same, fun l z i_le l_lt at_l => ?_⟩
  obtain ⟨i_in, rfl⟩ := List.getElem?_eq_some_iff.mp at_i
  obtain ⟨j_in, rfl⟩ := List.getElem?_eq_some_iff.mp at_j
  obtain ⟨l_in, rfl⟩ := List.getElem?_eq_some_iff.mp at_l
  refine (ordered l j l_in j_in l_lt).2.resolve_right fun rises => ?_
  rw [same] at rises
  rcases Nat.eq_or_lt_of_le i_le with rfl | after
  · exact lt_irrefl _ rises
  · exact absurd rises (not_lt.mpr (ordered i l i_in l_in after).1)

end Tableau

end LinearProgram

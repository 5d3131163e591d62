import LinearProgram.Proofs.FloatingPoint.Overflow
import LinearProgram.Tableau.Pivot
import LinearProgram.Tableau.Standard

/-!
# Rows of numbers

In floating point, a row of numbers stays a row of numbers under the operations
of the tableau, as long as no result is an infinity: the pivot element is not
zero, and all else is a number minus a product of two numbers.

Clearing an objective row takes one operation for each constraint row, and an
infinity that comes up on the way may be lost in a later operation.  So the rows
on the way are listed by `Tableau.loading`.

* `Row.All`: a property of all entries.
* `Tableau.isFinite_pivot`, `Tableau.isFinite_loadObjective`: what a pivot and
  an exchange of the objective row keep.
* `Tableau.all_ofProblem`: what the numbers of a problem and of its starting
  tableau have in common.
-/

namespace LinearProgram

open FloatingPoint

variable {α : Type}

theorem exists_of_mem_zipWith {β γ : Type} {f : α → β → γ} {l : List α} {m : List β} {z : γ}
    (mem : z ∈ List.zipWith f l m) : ∃ x ∈ l, ∃ y ∈ m, z = f x y := by
  obtain ⟨i, inside, rfl⟩ := List.getElem_of_mem mem
  rw [List.length_zipWith, Nat.lt_min] at inside
  exact ⟨_, List.getElem_mem inside.1, _, List.getElem_mem inside.2, List.getElem_zipWith⟩

/-- What one step of a fold keeps, where its result is fit, is kept by the whole fold, where all
results on the way are. -/
theorem foldl_of_scanl {β : Type} {f : β → α → β} {P Fit : β → Prop} {l : List α} {b : β}
    (step : ∀ b, ∀ a ∈ l, P b → Fit (f b a) → P (f b a)) (init : P b)
    (fits : ∀ x ∈ l.scanl f b, Fit x) : P (l.foldl f b) := by
  induction l generalizing b with
  | nil => exact init
  | cons a l ih =>
    rw [List.scanl_cons] at fits
    have later := (List.forall_mem_cons.mp fits).2
    have next : Fit (f b a) := by
      apply later
      exact List.mem_of_getElem? List.getElem?_scanl_zero
    rw [List.foldl_cons]
    apply ih
    · exact fun b c mem => step b c (List.mem_cons_of_mem a mem)
    · exact step b a List.mem_cons_self init next
    · exact later

/-! ## Rows -/

namespace Row

/-- A property of all entries of a row. -/
def All (P : α → Prop) (r : Row α) : Prop := ∀ x ∈ r.entries, P x

instance {P : α → Prop} [DecidablePred P] (r : Row α) : Decidable (r.All P) :=
  inferInstanceAs (Decidable (∀ x ∈ r.entries, P x))

theorem all_iff {P : α → Prop} {r : Row α} :
    r.All P ↔ (∀ x ∈ r.cells, P x) ∧ P r.mark ∧ P r.rhs := by
  unfold All entries
  rw [List.forall_mem_append, List.forall_mem_cons, List.forall_mem_singleton]

theorem eliminate_cases [Scalar α] (r s : Row α) (c : Nat) :
    r.eliminate c s = r ∨ r.eliminate c s = r.subtract (r.entry c) s := by
  unfold eliminate
  split
  · exact Or.inl rfl
  · exact Or.inr rfl

namespace All

variable [Scalar α] {P Fit : α → Prop} {r s : Row α}

theorem entry (zero : P 0) (all : r.All P) (c : Nat) : P (r.entry c) := by
  unfold Row.entry
  rw [List.getD_eq_getElem?_getD]
  cases cell : r.cells[c]? with
  | none => exact zero
  | some x => exact (all_iff.mp all).1 x (List.mem_of_getElem? cell)

theorem divide {d : α} (keep : ∀ x, P x → Fit (x / d) → P (x / d)) (all : r.All P)
    (fits : (r.divide d).All Fit) : (r.divide d).All P := by
  rw [all_iff] at all fits ⊢
  obtain ⟨cells, mark, rhs⟩ := all
  obtain ⟨fit_cells, fit_mark, fit_rhs⟩ := fits
  refine ⟨fun z mem => ?_, keep _ mark fit_mark, keep _ rhs fit_rhs⟩
  obtain ⟨x, x_mem, rfl⟩ := List.mem_map.mp mem
  exact keep x (cells x x_mem) (fit_cells _ mem)

theorem subtract {factor : α}
    (keep : ∀ x y, P x → P y → Fit (x - factor * y) → P (x - factor * y)) (all : r.All P)
    (other : s.All P) (fits : (r.subtract factor s).All Fit) : (r.subtract factor s).All P := by
  rw [all_iff] at all other fits ⊢
  obtain ⟨cells, mark, rhs⟩ := all
  obtain ⟨other_cells, other_mark, other_rhs⟩ := other
  obtain ⟨fit_cells, fit_mark, fit_rhs⟩ := fits
  refine ⟨fun z mem => ?_, keep _ _ mark other_mark fit_mark, keep _ _ rhs other_rhs fit_rhs⟩
  obtain ⟨x, x_mem, y, y_mem, rfl⟩ := exists_of_mem_zipWith mem
  exact keep x y (cells x x_mem) (other_cells y y_mem) (fit_cells _ mem)

end All

/-- All entries are numbers. -/
abbrev IsFinite (r : Row Float) : Prop := r.All (·.isFinite = true)

/-- No entry is an infinity. -/
abbrev InRange (r : Row Float) : Prop := r.All (·.isInf = false)

namespace IsFinite

variable {r s : Row Float} (finite : r.IsFinite)

include finite

theorem isFinite_entry (c : Nat) : (r.entry c).isFinite = true :=
  All.entry isFinite_zero finite c

theorem divide {d : Float} (divisor : d.isFinite = true) (nonzero : (d == 0.0) = false)
    (fits : (r.divide d).InRange) : (r.divide d).IsFinite :=
  All.divide (fun _ number => isFinite_div_of_ne_zero number divisor nonzero) finite fits

theorem eliminate (other : s.IsFinite) {c : Nat} (fits : (r.eliminate c s).InRange) :
    (r.eliminate c s).IsFinite := by
  rcases r.eliminate_cases s c with same | cleared
  · rw [same]
    exact finite
  · rw [cleared] at fits ⊢
    exact All.subtract (fun _ _ number number' =>
      isFinite_sub_mul number (finite.isFinite_entry c) number') finite other fits

end IsFinite

end Row

/-! ## Tableaux -/

namespace Tableau

/-- The objective rows that come up while an objective is loaded and cleared, one after the other.
The last one takes the place of the old objective row. -/
def loading [Scalar α] (t : Tableau α) (costs : List α) : List (Row α) :=
  t.rows.scanl (fun objective r => objective.eliminate r.basic r.row) ⟨costs, 1, 0⟩

variable {t : Tableau Float} {i c : Nat} (finite : ∀ r ∈ t.rows, r.row.IsFinite)

include finite

/-- A pivot at an element that is not zero. -/
theorem isFinite_pivot (nonzero : ∀ r, t.rows[i]? = some r → (r.row.entry c == 0.0) = false)
    (fits : ∀ r ∈ (t.pivot i c).rows, r.row.InRange) :
    (∀ r ∈ (t.pivot i c).rows, r.row.IsFinite) ∧
      (t.objective.IsFinite → (t.pivot i c).objective.InRange →
        (t.pivot i c).objective.IsFinite) := by
  unfold pivot at fits ⊢
  split
  · exact ⟨finite, fun objective _ => objective⟩
  · next r at_i =>
    rw [at_i] at fits
    obtain ⟨i_lt, _⟩ := List.getElem?_eq_some_iff.mp at_i
    have row := finite r (List.mem_of_getElem? at_i)
    have solved : (r.row.divide (r.row.entry c)).IsFinite := by
      apply row.divide (row.isFinite_entry c) (nonzero r at_i)
      exact fits ⟨c, r.row.divide (r.row.entry c)⟩
        (List.mem_mapIdx.mpr ⟨i, i_lt, by rw [if_pos rfl]⟩)
    refine ⟨fun s mem => ?_, fun objective fits => objective.eliminate solved fits⟩
    have s_fits := fits s mem
    obtain ⟨k, k_lt, rfl⟩ := List.mem_mapIdx.mp mem
    by_cases here : k = i
    · rw [if_pos here]
      exact solved
    · rw [if_neg here] at s_fits ⊢
      exact (finite _ (List.getElem_mem k_lt)).eliminate solved s_fits

theorem isFinite_clearRhs : ∀ r ∈ (t.clearRhs i).rows, r.row.IsFinite := by
  intro r mem
  obtain ⟨k, at_k⟩ := List.mem_iff_getElem?.mp mem
  rw [clearRhs, List.getElem?_modify] at at_k
  obtain ⟨s, s_at, rfl⟩ := Option.map_eq_some_iff.mp at_k
  have row := finite s (List.mem_of_getElem? s_at)
  split
  · obtain ⟨cells, mark, _⟩ := Row.all_iff.mp row
    exact Row.all_iff.mpr ⟨cells, mark, isFinite_zero⟩
  · exact row

theorem isFinite_loadObjective {costs : List Float} (numbers : ∀ x ∈ costs, x.isFinite = true)
    (fits : ∀ row ∈ t.loading costs, row.InRange) : (t.loadObjective costs).objective.IsFinite := by
  have start : Row.IsFinite ⟨costs, 1, 0⟩ := Row.all_iff.mpr ⟨numbers, isFinite_one, isFinite_zero⟩
  apply foldl_of_scanl _ start fits
  intro objective r mem kept fit
  exact kept.eliminate (finite r mem) fit

omit finite

/-! ## The starting tableau -/

section Start

variable [Scalar α] {P : α → Prop} (zero : P 0) (one : P 1)

include zero

theorem forall_mem_zeros (count : Nat) : ∀ x ∈ (zeros count : List α), P x := by
  intro x mem
  rw [List.eq_of_mem_replicate mem]
  exact zero

theorem forall_mem_single {x : α} (holds : P x) (count position : Nat) :
    ∀ y ∈ single count position x, P y := by
  intro y mem
  rcases List.mem_or_eq_of_mem_set mem with old | rfl
  · exact forall_mem_zeros zero count y old
  · exact holds

include one

theorem all_startRows (minus : P (-1)) {l : Layout} {slack artificial : Nat}
    {constraints : List (Constraint α)}
    (numbers : ∀ c ∈ constraints, (∀ x ∈ c.coefficients, P x) ∧ P c.rhs) :
    ∀ r ∈ startRows l slack artificial constraints, r.row.All P := by
  induction constraints generalizing slack artificial with
  | nil => exact fun r mem => absurd mem List.not_mem_nil
  | cons c rest ih =>
    obtain ⟨⟨coefficients, rhs⟩, others⟩ := List.forall_mem_cons.mp numbers
    rw [startRows]
    split
    all_goals
      refine List.forall_mem_cons.mpr ⟨?_, ih others⟩
      rw [Row.all_iff, List.forall_mem_append, List.forall_mem_append]
      refine ⟨⟨⟨coefficients, ?_⟩, ?_⟩, zero, rhs⟩
    · exact forall_mem_single zero one _ _
    · exact forall_mem_zeros zero _
    · exact forall_mem_single zero minus _ _
    · exact forall_mem_single zero one _ _
    · exact forall_mem_zeros zero _
    · exact forall_mem_single zero one _ _

/-- What holds of zero, one and all numbers of a problem, and of the negative of a value with the
value, holds of all entries of the starting tableau. -/
theorem all_ofProblem (neg : ∀ x, P x → P (-x)) {p : Problem α}
    (objective : ∀ x ∈ p.objective.coefficients, P x)
    (constraints : ∀ c ∈ p.constraints, (∀ x ∈ c.coefficients, P x) ∧ P c.rhs) :
    (∀ r ∈ (ofProblem p).rows, r.row.All P) ∧ (ofProblem p).objective.All P := by
  have negated : ∀ {l : List α}, (∀ x ∈ l, P x) → ∀ x ∈ l.map (- ·), P x := by
    intro l holds x mem
    obtain ⟨y, y_mem, rfl⟩ := List.mem_map.mp mem
    exact neg y (holds y y_mem)
  constructor
  · apply all_startRows zero one (neg 1 one)
    intro c mem
    obtain ⟨d, d_mem, rfl⟩ := List.mem_map.mp mem
    obtain ⟨coefficients, rhs⟩ := constraints d d_mem
    unfold Constraint.normalize
    split
    · exact ⟨negated coefficients, neg _ rhs⟩
    · exact ⟨coefficients, rhs⟩
  · unfold ofProblem startObjective
    rw [Row.all_iff, List.forall_mem_append, List.forall_mem_append]
    refine ⟨⟨⟨?_, forall_mem_zeros zero _⟩, forall_mem_zeros zero _⟩, one, zero⟩
    cases p.objective.sense with
    | maximize => exact negated objective
    | minimize => exact objective

end Start

end Tableau

end LinearProgram

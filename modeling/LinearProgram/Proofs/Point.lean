import Mathlib.Algebra.BigOperators.Group.Finset.Basic
import Mathlib.Algebra.Order.BigOperators.Group.Finset
import Mathlib.Algebra.Order.Ring.Rat
import Mathlib.Data.List.GetD
import Mathlib.Tactic.FieldSimp
import Mathlib.Tactic.Linarith
import Mathlib.Tactic.Ring
import LinearProgram.Problem.Fault

/-!
# Points of a linear program

What a linear program means, with no tableau in sight: which points satisfy its
constraints, which of them is a best one, and when there is no bound on how good
a point can be.  All numbers are exact here.

A point gives a value to every position, so that one point serves the decision
variables, a starting tableau with its slack and artificial columns, and every
row of it.  Positions beyond the ones in question do not matter.
-/

namespace LinearProgram

/-- A value for every position. -/
abbrev Point : Type := Nat → Rat

/-- The value of a linear form at a point. -/
def dot (coefficients : List Rat) (x : Point) : Rat :=
  ∑ j ∈ Finset.range coefficients.length, coefficients.getD j 0 * x j

/-! ## Points and linear programs -/

/-- A point is on the right side of a constraint. -/
def Constraint.HoldsAt (c : Constraint Rat) (x : Point) : Prop :=
  match c.relation with
  | .le => dot c.coefficients x ≤ c.rhs
  | .ge => c.rhs ≤ dot c.coefficients x
  | .eq => dot c.coefficients x = c.rhs

/-- The first of two objective values is strictly preferred. -/
def Sense.Better : Sense → Rat → Rat → Prop
  | .maximize, a, b => b < a
  | .minimize, a, b => a < b

namespace Problem

/-- The objective at a point. -/
def valueAt (p : Problem Rat) (x : Point) : Rat := dot p.objective.coefficients x

/-- No decision variable is negative and every constraint holds. -/
def Feasible (p : Problem Rat) (x : Point) : Prop :=
  (∀ j < p.variableCount, 0 ≤ x j) ∧ ∀ c ∈ p.constraints, c.HoldsAt x

/-- A feasible point to which no feasible point is preferred. -/
def IsOptimum (p : Problem Rat) (x : Point) : Prop :=
  p.Feasible x ∧ ∀ y, p.Feasible y → ¬ p.objective.sense.Better (p.valueAt y) (p.valueAt x)

/-- Past every bound there is a feasible point that is preferred to it. -/
def IsUnbounded (p : Problem Rat) : Prop :=
  ∀ bound : Rat, ∃ x, p.Feasible x ∧ p.objective.sense.Better (p.valueAt x) bound

/-- The objective with its sign turned for minimisation, so that more is better. -/
def gainAt (p : Problem Rat) (x : Point) : Rat :=
  match p.objective.sense with
  | .maximize => p.valueAt x
  | .minimize => -p.valueAt x

theorem better_iff_gainAt_lt (p : Problem Rat) (x y : Point) :
    p.objective.sense.Better (p.valueAt y) (p.valueAt x) ↔ p.gainAt x < p.gainAt y := by
  unfold gainAt
  cases p.objective.sense with
  | maximize => exact Iff.rfl
  | minimize => exact neg_lt_neg_iff.symm

/-- A gain that exceeds every bound makes the problem unbounded, for either sense. -/
theorem isUnbounded_of_gainAt (p : Problem Rat)
    (gains : ∀ bound : Rat, ∃ x, p.Feasible x ∧ bound < p.gainAt x) : p.IsUnbounded := by
  intro bound
  unfold gainAt at gains
  cases sense : p.objective.sense with
  | maximize =>
    simp only [sense] at gains
    exact gains bound
  | minimize =>
    simp only [sense] at gains
    obtain ⟨x, feasible, gain⟩ := gains (-bound)
    exact ⟨x, feasible, neg_lt_neg_iff.mp gain⟩

end Problem

/-! ## Magnitudes -/

namespace Scalar

theorem abs_eq (x : Rat) : Scalar.abs x = |x| := by
  unfold Scalar.abs
  split
  · next negative => exact (abs_of_neg negative).symm
  · next nonneg => exact (abs_of_nonneg (not_lt.mp nonneg)).symm

theorem max_eq (x y : Rat) : Scalar.max x y = Max.max x y := by
  unfold Scalar.max
  split
  · next below => exact (max_eq_right below.le).symm
  · next above => exact (max_eq_left (not_lt.mp above)).symm

end Scalar

/-! ## Linear forms -/

section Dot

variable {as bs : List Rat} {x y : Point}

@[simp] theorem dot_nil : dot [] x = 0 := rfl

@[simp] theorem dot_cons (a : Rat) (as : List Rat) (x : Point) :
    dot (a :: as) x = a * x 0 + dot as fun j => x (j + 1) := by
  unfold dot
  rw [List.length_cons, Finset.sum_range_succ', add_comm]
  rfl

theorem dot_congr (agree : ∀ j < as.length, x j = y j) : dot as x = dot as y := by
  unfold dot
  refine Finset.sum_congr rfl fun j mem => ?_
  rw [agree j (Finset.mem_range.mp mem)]

theorem dot_append (as bs : List Rat) (x : Point) :
    dot (as ++ bs) x = dot as x + dot bs fun j => x (as.length + j) := by
  unfold dot
  rw [List.length_append, Finset.sum_range_add]
  congr 1
  · refine Finset.sum_congr rfl fun j mem => ?_
    rw [List.getD_append _ _ _ _ (Finset.mem_range.mp mem)]
  · refine Finset.sum_congr rfl fun j _ => ?_
    rw [List.getD_append_right _ _ _ _ (Nat.le_add_right _ _), Nat.add_sub_cancel_left]

/-- A form with at most one coefficient that is not zero. -/
theorem dot_eq_single {c : Nat} (inside : c < as.length)
    (others : ∀ j < as.length, j ≠ c → as.getD j 0 * x j = 0) :
    dot as x = as.getD c 0 * x c := by
  unfold dot
  refine Finset.sum_eq_single c (fun j mem ne => ?_) fun outside => ?_
  · exact others j (Finset.mem_range.mp mem) ne
  · exact absurd (Finset.mem_range.mpr inside) outside

theorem dot_eq_zero (terms : ∀ j < as.length, as.getD j 0 * x j = 0) : dot as x = 0 :=
  Finset.sum_eq_zero fun j mem => terms j (Finset.mem_range.mp mem)

theorem dot_nonneg (terms : ∀ j < as.length, 0 ≤ as.getD j 0 * x j) : 0 ≤ dot as x :=
  Finset.sum_nonneg fun j mem => terms j (Finset.mem_range.mp mem)

theorem dot_map_neg (as : List Rat) (x : Point) : dot (as.map (- ·)) x = -dot as x := by
  induction as generalizing x with
  | nil => simp [dot_nil]
  | cons a as ih => rw [List.map_cons, dot_cons, dot_cons, ih]; ring

theorem dot_map_div (as : List Rat) (d : Rat) (x : Point) :
    dot (as.map (· / d)) x = dot as x / d := by
  induction as generalizing x with
  | nil => simp [dot_nil]
  | cons a as ih => rw [List.map_cons, dot_cons, dot_cons, ih]; ring

theorem dot_zipWith (factor : Rat) (length : as.length = bs.length) (x : Point) :
    dot (List.zipWith (fun a b => a - factor * b) as bs) x = dot as x - factor * dot bs x := by
  induction as generalizing bs x with
  | nil => rw [List.length_eq_zero_iff.mp length.symm]; simp [dot_nil]
  | cons a as ih =>
    cases bs with
    | nil => cases length
    | cons b bs =>
      rw [List.zipWith_cons_cons, dot_cons, dot_cons, dot_cons, ih (Nat.succ.inj length)]
      ring

/-- Changing a point at one position changes a form by the coefficient there. -/
theorem dot_update {c : Nat} (inside : c < as.length) (x : Point) (v : Rat) :
    dot as (Function.update x c v) = dot as x + as.getD c 0 * (v - x c) := by
  have change : dot as (Function.update x c v) - dot as x =
      dot as fun j => Function.update x c v j - x j := by
    unfold dot
    rw [← Finset.sum_sub_distrib]
    exact Finset.sum_congr rfl fun j _ => (mul_sub _ _ _).symm
  have single : (dot as fun j => Function.update x c v j - x j) = as.getD c 0 * (v - x c) := by
    rw [dot_eq_single inside fun j _ ne => by rw [Function.update_of_ne ne, sub_self, mul_zero],
      Function.update_self]
  linarith

end Dot

end LinearProgram

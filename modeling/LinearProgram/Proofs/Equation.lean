import Mathlib.Algebra.Module.Pi
import Mathlib.LinearAlgebra.Span.Basic
import LinearProgram.Proofs.Shape

/-!
# Rows as equations

A row of a tableau says that a linear form equals its right-hand side.  Its
*gap* at a point is what is missing there, so the row holds where the gap is
zero.  The gaps of the rows span a space of functions, and a row operation that
can be undone leaves this space as it is; both the points that satisfy a tableau
and the value that its objective row gives them are read off the space.
-/

namespace LinearProgram

namespace Row

/-- By how much the right-hand side of a row exceeds its left-hand side at a point. -/
def gap (r : Row Rat) (x : Point) : Rat := r.rhs - dot r.cells x

theorem entry_of_le {r : Row Rat} {c : Nat} (outside : r.cells.length ≤ c) : r.entry c = 0 :=
  List.getD_eq_default _ _ outside

/-! ## Row operations, entry by entry -/

@[simp] theorem entry_divide (r : Row Rat) (d : Rat) (c : Nat) :
    (r.divide d).entry c = r.entry c / d := by
  unfold entry divide
  rw [List.getD_eq_getElem?_getD, List.getD_eq_getElem?_getD, List.getElem?_map]
  cases r.cells[c]? with
  | none => exact (zero_div d).symm
  | some a => rfl

theorem gap_divide (r : Row Rat) (d : Rat) : (r.divide d).gap = d⁻¹ • r.gap := by
  funext x
  have left : dot (r.divide d).cells x = dot r.cells x / d := dot_map_div _ _ _
  have right : (r.divide d).rhs = r.rhs / d := rfl
  rw [gap, left, right, Pi.smul_apply, smul_eq_mul, gap]
  ring

section Subtract

variable {r s : Row Rat} (width : r.cells.length = s.cells.length)

include width

theorem entry_subtract (factor : Rat) (c : Nat) :
    (r.subtract factor s).entry c = r.entry c - factor * s.entry c := by
  by_cases inside : c < s.cells.length
  · have left_inside : c < r.cells.length := width ▸ inside
    have cell : (r.subtract factor s).cells[c]? = some (r.cells[c] - factor * s.cells[c]) := by
      unfold subtract
      rw [List.getElem?_zipWith, List.getElem?_eq_getElem left_inside,
        List.getElem?_eq_getElem inside]
    unfold entry
    rw [List.getD_eq_getElem?_getD, cell, List.getD_eq_getElem _ _ left_inside,
      List.getD_eq_getElem _ _ inside]
    rfl
  · have outside : s.cells.length ≤ c := Nat.le_of_not_lt inside
    have same : (r.subtract factor s).cells.length = s.cells.length :=
      (length_subtract width factor).trans width
    rw [entry_of_le outside, entry_of_le (width.trans_le outside),
      entry_of_le (same.trans_le outside), mul_zero, sub_zero]

theorem gap_subtract (factor : Rat) : (r.subtract factor s).gap = r.gap - factor • s.gap := by
  funext x
  have left : dot (r.subtract factor s).cells x = dot r.cells x - factor * dot s.cells x :=
    dot_zipWith factor width x
  have right : (r.subtract factor s).rhs = r.rhs - factor * s.rhs := rfl
  rw [gap, left, right, Pi.sub_apply, Pi.smul_apply, smul_eq_mul, gap, gap]
  ring

/-- Leaving out a row that is zero in the column is a shortcut and nothing more. -/
theorem eliminate_eq_subtract (c : Nat) : r.eliminate c s = r.subtract (r.entry c) s := by
  unfold eliminate
  split
  · next zero =>
    have factor : r.entry c = 0 := eq_of_beq zero
    have cells : List.zipWith (fun a b : Rat => a - 0 * b) r.cells s.cells = r.cells := by
      refine List.ext_getElem ?_ fun j _ _ => ?_
      · rw [List.length_zipWith, width, Nat.min_self]
      · rw [List.getElem_zipWith, zero_mul, sub_zero]
    rw [factor]
    unfold subtract
    rw [cells]
    cases r with
    | mk cells mark rhs =>
      congr 1
      · exact (sub_zero mark).symm.trans (by rw [zero_mul])
      · exact (sub_zero rhs).symm.trans (by rw [zero_mul])
  · rfl

theorem entry_eliminate (c j : Nat) :
    (r.eliminate c s).entry j = r.entry j - r.entry c * s.entry j := by
  rw [eliminate_eq_subtract width, entry_subtract width]

theorem rhs_eliminate (c : Nat) : (r.eliminate c s).rhs = r.rhs - r.entry c * s.rhs := by
  rw [eliminate_eq_subtract width]
  rfl

theorem mark_eliminate (c : Nat) : (r.eliminate c s).mark = r.mark - r.entry c * s.mark := by
  rw [eliminate_eq_subtract width]
  rfl

theorem gap_eliminate (c : Nat) : (r.eliminate c s).gap = r.gap - r.entry c • s.gap := by
  rw [eliminate_eq_subtract width, gap_subtract width]

end Subtract

theorem eliminate_of_entry_eq_zero {r : Row Rat} {c : Nat} (zero : r.entry c = 0) (s : Row Rat) :
    r.eliminate c s = r :=
  if_pos (beq_iff_eq.mpr zero)

end Row

/-! ## The space of a tableau's equations -/

namespace Tableau

/-- Every constraint row holds at a point. -/
def SatisfiedBy (t : Tableau Rat) (x : Point) : Prop :=
  ∀ r ∈ t.rows, dot r.row.cells x = r.row.rhs

/-- The linear combinations of the gaps of the constraint rows. -/
def rowSpace (t : Tableau Rat) : Submodule Rat (Point → Rat) :=
  Submodule.span Rat {g | ∃ r ∈ t.rows, g = r.row.gap}

theorem gap_mem_rowSpace {t : Tableau Rat} {r : BasicRow Rat} (mem : r ∈ t.rows) :
    r.row.gap ∈ t.rowSpace :=
  Submodule.subset_span ⟨r, mem, rfl⟩

theorem rowSpace_le {t : Tableau Rat} {space : Submodule Rat (Point → Rat)}
    (gaps : ∀ r ∈ t.rows, r.row.gap ∈ space) : t.rowSpace ≤ space := by
  refine Submodule.span_le.mpr ?_
  rintro _ ⟨r, mem, rfl⟩
  exact gaps r mem

theorem satisfiedBy_iff_gap (t : Tableau Rat) (x : Point) :
    t.SatisfiedBy x ↔ ∀ r ∈ t.rows, r.row.gap x = 0 := by
  refine forall₂_congr fun r _ => ?_
  unfold Row.gap
  rw [sub_eq_zero, eq_comm]

/-- The points of a tableau are the common zeros of its row space. -/
theorem satisfiedBy_iff_rowSpace (t : Tableau Rat) (x : Point) :
    t.SatisfiedBy x ↔ ∀ g ∈ t.rowSpace, g x = 0 := by
  rw [satisfiedBy_iff_gap]
  refine ⟨fun rows g mem => ?_, fun all r mem => all _ (gap_mem_rowSpace mem)⟩
  induction mem using Submodule.span_induction with
  | mem g generator =>
    obtain ⟨r, mem, rfl⟩ := generator
    exact rows r mem
  | zero => rfl
  | add g h _ _ zeroG zeroH => rw [Pi.add_apply, zeroG, zeroH, add_zero]
  | smul a g _ zero => rw [Pi.smul_apply, zero, smul_zero]

/-- Two tableaux with the same columns say the same: their equations span one space, and their
objective rows differ by a combination of equations. -/
structure Equivalent (t u : Tableau Rat) : Prop where
  layout : u.layout = t.layout
  rowSpace : u.rowSpace = t.rowSpace
  objective : u.objective.gap - t.objective.gap ∈ t.rowSpace

namespace Equivalent

variable {t u v : Tableau Rat}

theorem refl (t : Tableau Rat) : t.Equivalent t :=
  ⟨rfl, rfl, by rw [sub_self]; exact zero_mem _⟩

theorem trans (left : t.Equivalent u) (right : u.Equivalent v) : t.Equivalent v := by
  refine ⟨right.layout.trans left.layout, right.rowSpace.trans left.rowSpace, ?_⟩
  have sum := add_mem (left.rowSpace ▸ right.objective) left.objective
  rwa [sub_add_sub_cancel] at sum

theorem satisfiedBy_iff (h : t.Equivalent u) (x : Point) : u.SatisfiedBy x ↔ t.SatisfiedBy x := by
  rw [satisfiedBy_iff_rowSpace, satisfiedBy_iff_rowSpace, h.rowSpace]

/-- Where the equations hold, both objective rows give the same value. -/
theorem gap_objective (h : t.Equivalent u) {x : Point} (satisfied : t.SatisfiedBy x) :
    u.objective.gap x = t.objective.gap x :=
  sub_eq_zero.mp ((satisfiedBy_iff_rowSpace t x).mp satisfied _ h.objective)

end Equivalent

end Tableau

end LinearProgram

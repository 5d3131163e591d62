import LinearProgram.Proofs.FloatingPoint.Sign
import LinearProgram.Proofs.Reach
import LinearProgram.Proofs.Start

/-!
# Constraints multiplied by `-1`

A constraint says the same after both sides have been multiplied by `-1` and its
relation has been turned round.  The starting tableau has one row for both of
them: of the two right-hand sides one is negative, and that constraint is turned
back before its row is written.  So constraints can be turned in any number of
places without a trace in the report.

Only a right-hand side of zero tells the two apart, since then neither is turned
back.  Of the arithmetic nothing is used but that negation is exact, which holds
of floating-point numbers as well: `ExactNegation` says what is meant.
-/

namespace LinearProgram

/-- Negation can be undone, leads from numbers to numbers, and of a number and its negative turns
one negative, unless the number is zero. -/
class ExactNegation (α : Type) [Scalar α] : Prop where
  neg_neg : ∀ x : α, - -x = x
  isFinite_neg : ∀ {x : α}, Scalar.isFinite x = true → Scalar.isFinite (-x) = true
  neg_lt_zero_iff : ∀ {x : α}, Scalar.isFinite x = true → (x == 0) = false → (-x < 0 ↔ ¬ x < 0)

instance : ExactNegation Rat where
  neg_neg := Rat.neg_neg
  isFinite_neg _ := rfl
  neg_lt_zero_iff := fun {x} _ nonzero => by
    have other : x ≠ 0 := fun zero => by simp [zero] at nonzero
    exact neg_lt_zero.trans (not_lt.trans other.symm.le_iff_lt).symm

instance : ExactNegation Float where
  neg_neg := FloatingPoint.neg_involutive
  isFinite_neg := FloatingPoint.isFinite_neg
  neg_lt_zero_iff := FloatingPoint.neg_lt_zero_iff

theorem Relation.flip_flip (r : Relation) : r.flip.flip = r := by
  cases r <;> rfl

variable {α : Type} [Scalar α]

/-- The constraint with both sides multiplied by `-1`. -/
def Constraint.negate (c : Constraint α) : Constraint α :=
  { c with coefficients := c.coefficients.map (- ·), relation := c.relation.flip, rhs := -c.rhs }

/-- The problem with the constraints at some positions multiplied by `-1`. -/
def Problem.negateAt (p : Problem α) (chosen : Nat → Bool) : Problem α :=
  { p with constraints := p.constraints.mapIdx fun i c => if chosen i then c.negate else c }

variable [ExactNegation α]

/-! ## One constraint -/

namespace Constraint

theorem negate_negate (c : Constraint α) : c.negate.negate = c := by
  have cells : (c.coefficients.map (- ·)).map (- ·) = c.coefficients := by
    rw [List.map_map]
    exact (List.map_congr_left fun x _ => ExactNegation.neg_neg x).trans (List.map_id _)
  unfold negate
  rw [cells, c.relation.flip_flip, ExactNegation.neg_neg c.rhs]

/-- Of a constraint and its negative, one has a negative right-hand side, and it becomes the other
one. -/
theorem normalize_negate {c : Constraint α} (finite : Scalar.isFinite c.rhs = true)
    (nonzero : (c.rhs == 0) = false) : c.negate.normalize = c.normalize := by
  have sign : -c.rhs < 0 ↔ ¬ c.rhs < 0 := ExactNegation.neg_lt_zero_iff finite nonzero
  by_cases negative : c.rhs < 0
  · have turned : c.normalize = c.negate := if_pos negative
    have kept : c.negate.normalize = c.negate := if_neg fun below => sign.mp below negative
    rw [turned, kept]
  · have kept : c.normalize = c := if_neg negative
    have turned : c.negate.normalize = c.negate.negate := if_pos (sign.mpr negative)
    rw [turned, kept, c.negate_negate]

theorem check_negate {names : List String} {c : Constraint α}
    (accepted : Problem.checkConstraint true names c = .ok ()) :
    Problem.checkConstraint true names c.negate = .ok () := by
  rw [Problem.checkConstraint_eq_ok_iff, Problem.checkFinite_eq_ok_iff] at accepted ⊢
  obtain ⟨length, coefficients, rhs, _⟩ := accepted
  refine ⟨(List.length_map _).trans length, fun v mem => ?_, ExactNegation.isFinite_neg rhs, nofun⟩
  have mapped : names.zip c.negate.coefficients =
      (names.zip c.coefficients).map (Prod.map id (- ·)) := List.zip_map_right
  rw [mapped] at mem
  obtain ⟨w, w_mem, rfl⟩ := List.mem_map.mp mem
  exact ExactNegation.isFinite_neg (coefficients w w_mem)

end Constraint

/-! ## A problem -/

namespace Problem

variable {p : Problem α} {chosen : Nat → Bool}

theorem validate_negateAt (valid : p.validate true = .ok ()) :
    (p.negateAt chosen).validate true = .ok () := by
  obtain ⟨some, names, distinct, finite, constraints⟩ := (validate_eq_ok_iff p true).mp valid
  refine (validate_eq_ok_iff _ true).mpr ⟨some, names, distinct, finite, fun c mem => ?_⟩
  obtain ⟨i, inside, rfl⟩ := List.exists_of_mem_mapIdx mem
  have accepted := constraints _ (List.getElem_mem inside)
  split
  · exact Constraint.check_negate accepted
  · exact accepted

theorem normalize_negateAt (valid : p.validate true = .ok ())
    (nonzero : ∀ i (inside : i < p.constraints.length), chosen i = true →
      (p.constraints[i].rhs == 0) = false) :
    (p.negateAt chosen).constraints.map Constraint.normalize =
      p.constraints.map Constraint.normalize := by
  obtain ⟨_, _, _, _, constraints⟩ := (validate_eq_ok_iff p true).mp valid
  refine List.ext_getElem (by simp [negateAt]) fun i _ right => ?_
  rw [List.length_map] at right
  have finite := ((checkConstraint_eq_ok_iff _ _ _).mp
    (constraints _ (List.getElem_mem right))).2.2.1
  simp only [negateAt, List.getElem_map, List.getElem_mapIdx]
  split
  · next here => exact Constraint.normalize_negate finite (nonzero i right here)
  · rfl

omit [ExactNegation α] in
/-- The starting tableau is written from constraints that have been turned already. -/
theorem ofProblem_eq_of_normalize_eq {q : Problem α} (names : q.names = p.names)
    (objective : q.objective = p.objective)
    (normalized : q.constraints.map Constraint.normalize =
      p.constraints.map Constraint.normalize) :
    Tableau.ofProblem q = Tableau.ofProblem p := by
  have relations := congrArg (List.map Constraint.relation) normalized
  rw [List.map_map, List.map_map] at relations
  have layout : q.layout = p.layout := by
    unfold Problem.layout
    rw [names]
    exact congrArg (fun rs : List Relation => (⟨p.names, rs.countP (· ≠ .eq), rs.countP (· ≠ .le)⟩ :
      Layout)) relations
  unfold Tableau.ofProblem
  rw [layout, normalized, objective]

end Problem

namespace Solver

variable {p : Problem α}

/-- Multiplying constraints by `-1`, in any places where the right-hand side is not zero, changes
nothing in the report of a solve with two phases. -/
theorem solve_negateAt (s : Solver α) (twoPhase : s.twoPhase = true)
    (valid : p.validate true = .ok ()) (chosen : Nat → Bool)
    (nonzero : ∀ i (inside : i < p.constraints.length), chosen i = true →
      (p.constraints[i].rhs == 0) = false) :
    ∃ r, s.solve p = .ok r ∧ s.solve (p.negateAt chosen) = .ok r := by
  have valid' : (p.negateAt chosen).validate true = .ok () := Problem.validate_negateAt valid
  have start : Tableau.ofProblem (p.negateAt chosen) = Tableau.ofProblem p :=
    Problem.ofProblem_eq_of_normalize_eq rfl rfl (Problem.normalize_negateAt valid nonzero)
  rw [← twoPhase] at valid valid'
  refine ⟨_, s.solve_of_validate valid, ?_⟩
  rw [s.solve_of_validate valid', start]
  rfl

/-- A demand that is written as an upper bound, a recipe and a limit, in floating-point numbers. -/
def recipe : Problem Float :=
  { names := ["x1", "x2"]
    objective := ⟨[0.3, 0.2], .minimize⟩
    constraints := [⟨"demand", [-1, -1], .le, -2⟩, ⟨"recipe", [1, -2], .eq, 0.5⟩,
      ⟨"waste", [0.1, 0], .le, 7⟩] }

theorem solve_negateAt_recipe :
    ∃ r, (Solver.mk 10 1e-9 true).solve recipe = .ok r ∧
      (Solver.mk 10 1e-9 true).solve (recipe.negateAt fun _ => true) = .ok r ∧
      r.solution.status = .optimal ∧ r.solution.values = [1.5, 0.5] := by
  obtain ⟨r, solved, solved'⟩ := solve_negateAt (p := recipe) (Solver.mk 10 1e-9 true) rfl
    rfl (fun _ => true) (by decide +kernel)
  exact ⟨r, solved, solved', status_of_solve solved (by decide +kernel),
    eq_of_solve (·.solution.values) solved (by decide +kernel)⟩

end Solver

end LinearProgram

import LinearProgram.Proofs.Point

/-!
# What an accepted problem is known to be

Validation is a chain of checks, so it accepts exactly if every check does.
Each check gets one such equivalence here, over any arithmetic; what later
proofs need of an accepted problem, above all that its lists fit together, is
read off these.
-/

namespace LinearProgram

namespace Problem

variable {α : Type}

/-- The objective and every constraint have one coefficient for each variable. -/
structure WellSized (p : Problem α) : Prop where
  objective : p.objective.coefficients.length = p.names.length
  constraints : ∀ c ∈ p.constraints, c.coefficients.length = p.names.length

/-- A check before another one: both have to pass. -/
theorem bind_eq_ok_iff {check : Except (Fault α) Unit} {next : Unit → Except (Fault α) Unit} :
    (check >>= next) = .ok () ↔ check = .ok () ∧ next () = .ok () := by
  cases check with
  | error fault => exact ⟨fun impossible => (nomatch impossible), fun both => nomatch both.1⟩
  | ok => exact (and_iff_right rfl).symm

/-- A fault that is raised under a condition: the condition has to fail. -/
theorem ite_throw_eq_ok_iff {condition : Prop} [Decidable condition] {fault : Fault α}
    {next : Unit → Except (Fault α) Unit} :
    (if condition then throw fault >>= next else next ()) = .ok () ↔
      ¬ condition ∧ next () = .ok () := by
  split
  · next holds => exact ⟨fun impossible => (nomatch impossible), fun both => absurd holds both.1⟩
  · next fails => exact (and_iff_right fails).symm

variable [Scalar α]

theorem checkFinite_eq_ok_iff (location : String → Location) (values : List (String × α)) :
    checkFinite location values = .ok () ↔ ∀ v ∈ values, Scalar.isFinite v.2 = true := by
  induction values with
  | nil => exact ⟨fun _ v mem => absurd mem List.not_mem_nil, fun _ => rfl⟩
  | cons v rest ih =>
    rw [checkFinite, List.forall_mem_cons]
    split
    · next finite => rw [ih, and_iff_right finite]
    · next infinite => exact ⟨nofun, fun both => absurd both.1 infinite⟩

theorem checkConstraint_eq_ok_iff (twoPhase : Bool) (names : List String) (c : Constraint α) :
    checkConstraint twoPhase names c = .ok () ↔
      c.coefficients.length = names.length ∧
      checkFinite (.coefficient · c.name) (names.zip c.coefficients) = .ok () ∧
      Scalar.isFinite c.rhs = true ∧ (twoPhase = false → checkOnePhase c = .ok ()) := by
  have last : (if (!twoPhase) = true then checkOnePhase c else pure ()) = Except.ok () ↔
      (twoPhase = false → checkOnePhase c = .ok ()) := by
    cases twoPhase with
    | true => exact ⟨fun _ impossible => (nomatch impossible), fun _ => rfl⟩
    | false => exact ⟨fun passed _ => passed, fun passed => passed rfl⟩
  unfold checkConstraint
  rw [ite_throw_eq_ok_iff, bind_eq_ok_iff, ite_throw_eq_ok_iff, last, not_not, Bool.not_eq_true',
    Bool.not_eq_false]

theorem checkConstraints_eq_ok_iff (twoPhase : Bool) (names : List String)
    (constraints : List (Constraint α)) :
    checkConstraints twoPhase names constraints = .ok () ↔
      ∀ c ∈ constraints, checkConstraint twoPhase names c = .ok () := by
  induction constraints with
  | nil => exact ⟨fun _ c mem => absurd mem List.not_mem_nil, fun _ => rfl⟩
  | cons c rest ih =>
    rw [checkConstraints, bind_eq_ok_iff, ih, List.forall_mem_cons]

theorem validate_eq_ok_iff (p : Problem α) (twoPhase : Bool) :
    p.validate twoPhase = .ok () ↔
      p.variableCount ≠ 0 ∧ p.names.length = p.variableCount ∧
      (checkNames [] p.names : Except (Fault α) Unit) = .ok () ∧
      checkFinite .objective (p.names.zip p.objective.coefficients) = .ok () ∧
      ∀ c ∈ p.constraints, checkConstraint twoPhase p.names c = .ok () := by
  unfold validate
  rw [ite_throw_eq_ok_iff, ite_throw_eq_ok_iff, bind_eq_ok_iff, bind_eq_ok_iff,
    checkConstraints_eq_ok_iff, not_not]

/-- An accepted problem, when the check has been carried out. -/
theorem validate_of_isOk {p : Problem α} {twoPhase : Bool}
    (accepted : (p.validate twoPhase).isOk = true) : p.validate twoPhase = .ok () := by
  cases check : p.validate twoPhase with
  | error fault =>
    rw [check] at accepted
    cases accepted
  | ok => rfl

theorem wellSized_of_validate {p : Problem α} {twoPhase : Bool}
    (valid : p.validate twoPhase = .ok ()) : p.WellSized := by
  obtain ⟨_, names, _, _, constraints⟩ := (validate_eq_ok_iff p twoPhase).mp valid
  refine ⟨names.symm, fun c mem => ?_⟩
  exact ((checkConstraint_eq_ok_iff twoPhase p.names c).mp (constraints c mem)).1

end Problem

end LinearProgram

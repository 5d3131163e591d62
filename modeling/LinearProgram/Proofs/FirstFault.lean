import LinearProgram.Proofs.Labels
import LinearProgram.Proofs.OnePhase

/-!
# The first fault of a problem

A problem can have faults of all kinds at once, in any number of places.
`Problem.faults` lists them all, in the order in which a reader of the problem
comes to them and without stopping anywhere.  Validation stops at the first one:
each of its checks is the first of a list of faults, and checks that are made one
after the other are the first of the lists put together.

* `Problem.Sound`: what it means that nothing is wrong.
* `firstOf_append`: one check after another.
* `Problem.validate_eq_firstOf`: validation as a whole.
-/

namespace LinearProgram

/-! ## What can be wrong -/

/-- The names that the columns of a tableau may have: a letter of one of its own groups with a
number, or one of the fixed labels. -/
def HasReservedShape (name : String) : Prop :=
  name = "Z" ∨ name = "RHS" ∨ ∃ letter digits, name.toList = letter :: digits ∧
    (letter = 's' ∨ letter = 'a') ∧ digits ≠ [] ∧ ∀ d ∈ digits, '0' ≤ d ∧ d ≤ '9'

theorem isReservedName_iff (name : String) :
    isReservedName name = true ↔ HasReservedShape name := by
  have digit : ∀ d : Char, d.isDigit = true ↔ '0' ≤ d ∧ d ≤ '9' := by
    intro d
    simp [Char.isDigit, Char.le_def]
  unfold isReservedName HasReservedShape objectiveLabel rhsLabel
  cases name.toList with
  | nil => simp
  | cons letter digits => simp [digit, or_assoc, and_assoc]

theorem isReservedName_eq_false_iff (name : String) :
    isReservedName name = false ↔ ¬ HasReservedShape name := by
  rw [← isReservedName_iff, Bool.not_eq_true]

instance (name : String) : Decidable (HasReservedShape name) :=
  decidable_of_iff _ (isReservedName_iff name)

namespace Problem

variable {α : Type} [Scalar α]

/-- Nothing is wrong with a problem, for the method of two phases or of one. -/
structure Sound (p : Problem α) (twoPhase : Bool) : Prop where
  nonempty : p.objective.coefficients ≠ []
  named : p.names.length = p.objective.coefficients.length
  distinct : p.names.Nodup
  free : ∀ name ∈ p.names, ¬ HasReservedShape name
  finite : ∀ x ∈ p.objective.coefficients, Scalar.isFinite x = true
  constraints : ∀ c ∈ p.constraints, c.coefficients.length = p.objective.coefficients.length ∧
    (∀ x ∈ c.coefficients, Scalar.isFinite x = true) ∧ Scalar.isFinite c.rhs = true
  onePhase : twoPhase = false → ∀ c ∈ p.constraints, c.relation = .le ∧ ¬ c.rhs < 0

omit [Scalar α] in
/-- A fault where something is wrong. -/
def faultIf (wrong : Prop) [Decidable wrong] (fault : Fault α) : List (Fault α) :=
  if wrong then [fault] else []

/-- The faults of names from left to right, given those that stand before them.  A reserved name may
be a repetition, too. -/
def nameFaults (earlier names : List String) : List (Fault α) :=
  (names.mapIdx fun i name =>
    faultIf (HasReservedShape name) (.reservedName name) ++
      faultIf (name ∈ earlier ++ names.take i) (.duplicateVariable name)).flatten

/-- The faults of numbers from left to right, each with the variable that it belongs to. -/
def numberFaults (location : String → Location) (numbers : List (String × α)) : List (Fault α) :=
  numbers.flatMap fun (var, x) => faultIf (¬ Scalar.isFinite x) (.nonFinite (location var) x)

/-- What the method of one phase cannot start from. -/
def onePhaseFaults (c : Constraint α) : List (Fault α) :=
  faultIf (c.relation ≠ .le) (.unsupportedRelation c.name c.relation) ++
    faultIf (c.rhs < 0) (.negativeRhs c.name c.rhs)

/-- The faults of a constraint in a problem with so many variables: its length, its coefficients,
its right-hand side. -/
def constraintFaults (twoPhase : Bool) (names : List String) (count : Nat) (c : Constraint α) :
    List (Fault α) :=
  faultIf (c.coefficients.length ≠ count)
      (.dimensionMismatch (.constraint c.name) count c.coefficients.length) ++
    numberFaults (.coefficient · c.name) (names.zip c.coefficients) ++
    faultIf (¬ Scalar.isFinite c.rhs) (.nonFinite (.rhs c.name) c.rhs) ++
    if twoPhase then [] else onePhaseFaults c

/-- All faults of a problem: its lengths, its names, its objective, its constraints in order. -/
def faults (p : Problem α) (twoPhase : Bool) : List (Fault α) :=
  faultIf (p.variableCount = 0) .noVariables ++
    faultIf (p.names.length ≠ p.variableCount)
      (.dimensionMismatch .variableNames p.variableCount p.names.length) ++
    nameFaults [] p.names ++ numberFaults .objective (p.names.zip p.objective.coefficients) ++
    p.constraints.flatMap (constraintFaults twoPhase p.names p.variableCount)

/-! ## The first of some faults -/

section FirstOf

omit [Scalar α]

/-- Fails with the first of some faults, if there is one. -/
def firstOf : List (Fault α) → Except (Fault α) Unit
  | [] => .ok ()
  | fault :: _ => .error fault

theorem firstOf_append (l m : List (Fault α)) :
    firstOf (l ++ m) = firstOf l >>= fun _ => firstOf m := by
  cases l <;> rfl

theorem firstOf_eq_error_iff (l : List (Fault α)) (fault : Fault α) :
    firstOf l = .error fault ↔ l.head? = some fault := by
  cases l with
  | nil => exact ⟨nofun, nofun⟩
  | cons first rest => simp [firstOf]

/-- A fault that is raised before what comes next. -/
theorem firstOf_faultIf_append (wrong : Prop) [Decidable wrong] (fault : Fault α)
    (l : List (Fault α)) :
    firstOf (faultIf wrong fault ++ l) = if wrong then .error fault else firstOf l := by
  unfold faultIf
  split <;> rfl

/-- The same as it is written in a sequence of checks. -/
theorem ite_throw_eq_firstOf {wrong : Prop} [Decidable wrong] {fault : Fault α}
    {next : Unit → Except (Fault α) Unit} {l : List (Fault α)} (rest : next () = firstOf l) :
    (if wrong then throw fault >>= next else next ()) = firstOf (faultIf wrong fault ++ l) := by
  rw [firstOf_faultIf_append, rest]
  rfl

theorem bind_eq_firstOf {check : Except (Fault α) Unit} {next : Unit → Except (Fault α) Unit}
    {l m : List (Fault α)} (first : check = firstOf l) (rest : next () = firstOf m) :
    (check >>= next) = firstOf (l ++ m) := by
  rw [firstOf_append, ← first, ← rest]

theorem firstOf_faultIf (wrong : Prop) [Decidable wrong] (fault : Fault α) :
    firstOf (faultIf wrong fault) = if wrong then .error fault else .ok () := by
  unfold faultIf
  split <;> rfl

end FirstOf

/-! ## Validation -/

omit [Scalar α] in
theorem nameFaults_cons (earlier : List String) (name : String) (rest : List String) :
    (nameFaults earlier (name :: rest) : List (Fault α)) =
      faultIf (HasReservedShape name) (.reservedName name) ++
        (faultIf (name ∈ earlier) (.duplicateVariable name) ++
          nameFaults (name :: earlier) rest) := by
  have moved : ∀ (other : String) (i : Nat),
      other ∈ earlier ++ (name :: rest).take (i + 1) ↔
        other ∈ name :: earlier ++ rest.take i := by
    intro other i
    simp only [List.take_succ_cons, List.mem_append, List.mem_cons]
    tauto
  simp only [nameFaults, List.mapIdx_cons, List.flatten_cons, moved, List.take_zero,
    List.append_nil, List.append_assoc]

omit [Scalar α] in
theorem checkNames_eq_firstOf (earlier names : List String) :
    (checkNames earlier names : Except (Fault α) Unit) = firstOf (nameFaults earlier names) := by
  induction names generalizing earlier with
  | nil => rfl
  | cons name rest ih =>
    rw [checkNames, nameFaults_cons, firstOf_faultIf_append, firstOf_faultIf_append, ih]
    simp only [isReservedName_iff]

theorem checkFinite_eq_firstOf (location : String → Location) (numbers : List (String × α)) :
    checkFinite location numbers = firstOf (numberFaults location numbers) := by
  induction numbers with
  | nil => rfl
  | cons number rest ih =>
    rw [checkFinite, numberFaults, List.flatMap_cons, firstOf_faultIf_append, ← numberFaults, ih,
      ite_not]

theorem checkOnePhase_eq_firstOf (c : Constraint α) :
    checkOnePhase c = firstOf (onePhaseFaults c) := by
  rw [onePhaseFaults, firstOf_faultIf_append, firstOf_faultIf, checkOnePhase]

theorem checkConstraint_eq_firstOf (twoPhase : Bool) (names : List String) (c : Constraint α) :
    checkConstraint twoPhase names c =
      firstOf (constraintFaults twoPhase names names.length c) := by
  have last : (if twoPhase = false then checkOnePhase c else pure ()) =
      firstOf (if twoPhase = true then [] else onePhaseFaults c) := by
    cases twoPhase with
    | true => rfl
    | false => exact checkOnePhase_eq_firstOf c
  unfold checkConstraint constraintFaults
  rw [List.append_assoc, List.append_assoc]
  refine ite_throw_eq_firstOf (bind_eq_firstOf (checkFinite_eq_firstOf _ _) ?_)
  simp only [Bool.not_eq_true', Bool.not_eq_true]
  exact ite_throw_eq_firstOf last

theorem checkConstraints_eq_firstOf (twoPhase : Bool) (names : List String)
    (constraints : List (Constraint α)) :
    checkConstraints twoPhase names constraints =
      firstOf (constraints.flatMap (constraintFaults twoPhase names names.length)) := by
  induction constraints with
  | nil => rfl
  | cons c rest ih =>
    rw [checkConstraints, List.flatMap_cons]
    exact bind_eq_firstOf (checkConstraint_eq_firstOf twoPhase names c) ih

theorem validate_eq_firstOf (p : Problem α) (twoPhase : Bool) :
    p.validate twoPhase = firstOf (p.faults twoPhase) := by
  unfold validate faults
  rw [List.append_assoc, List.append_assoc, List.append_assoc]
  refine ite_throw_eq_firstOf ?_
  -- The constraints are only looked at where there are as many names as variables.
  by_cases named : p.names.length = p.variableCount
  · rw [← named]
    refine ite_throw_eq_firstOf (bind_eq_firstOf (checkNames_eq_firstOf _ _)
      (bind_eq_firstOf (checkFinite_eq_firstOf _ _) (checkConstraints_eq_firstOf _ _ _)))
  · rw [if_pos named, firstOf_faultIf_append, if_pos named]
    rfl

/-! ## Sound problems -/

omit [Scalar α] in
theorem forall_zip_iff {names : List String} {numbers : List α}
    (length : numbers.length = names.length) (P : α → Prop) :
    (∀ v ∈ names.zip numbers, P v.2) ↔ ∀ x ∈ numbers, P x := by
  rw [← List.forall_mem_map (f := Prod.snd) (P := P), List.map_snd_zip length.le]

theorem checkConstraint_eq_ok_iff_sound (twoPhase : Bool) (names : List String)
    (c : Constraint α) :
    checkConstraint twoPhase names c = .ok () ↔
      (c.coefficients.length = names.length ∧
        (∀ x ∈ c.coefficients, Scalar.isFinite x = true) ∧ Scalar.isFinite c.rhs = true) ∧
      (twoPhase = false → c.relation = .le ∧ ¬ c.rhs < 0) := by
  rw [checkConstraint_eq_ok_iff, checkFinite_eq_ok_iff, checkOnePhase_eq_ok_iff, and_assoc,
    and_assoc]
  refine and_congr_right fun length => ?_
  rw [forall_zip_iff length (Scalar.isFinite · = true)]

theorem validate_eq_ok_iff_sound (p : Problem α) (twoPhase : Bool) :
    p.validate twoPhase = .ok () ↔ p.Sound twoPhase := by
  rw [validate_eq_ok_iff, checkNames_eq_ok_iff, checkFinite_eq_ok_iff]
  simp only [checkConstraint_eq_ok_iff_sound, isReservedName_eq_false_iff]
  constructor
  · rintro ⟨nonempty, named, ⟨free, distinct⟩, finite, constraints⟩
    rw [forall_zip_iff named.symm (Scalar.isFinite · = true)] at finite
    rw [named] at constraints
    exact ⟨fun empty => nonempty (congrArg List.length empty), named, distinct,
      fun name mem => (free name mem).1, finite, fun c mem => (constraints c mem).1,
      fun one c mem => (constraints c mem).2 one⟩
  · rintro ⟨nonempty, named, distinct, free, finite, constraints, onePhase⟩
    rw [← forall_zip_iff named.symm (Scalar.isFinite · = true)] at finite
    rw [← named] at constraints
    exact ⟨fun zero => nonempty (List.eq_nil_of_length_eq_zero zero), named,
      ⟨fun name mem => ⟨free name mem, List.not_mem_nil⟩, distinct⟩, finite,
      fun c mem => ⟨constraints c mem, fun one => onePhase one c mem⟩⟩

omit [Scalar α] in
/-- What cannot fail itself fails only with what comes before it. -/
theorem bind_pure_eq_error_iff {β γ : Type} {check : Except (Fault α) β} {f : β → γ}
    {fault : Fault α} :
    (check >>= fun x => pure (f x)) = .error fault ↔ check = .error fault := by
  cases check with
  | error other => exact ⟨fun same => congrArg _ (Except.error.inj same),
      fun same => congrArg _ (Except.error.inj same)⟩
  | ok x => exact ⟨nofun, nofun⟩

/-- Validation accepts exactly the sound problems, and refuses any other one for the first of its
faults.  The starting tableau and the report on a problem are refused exactly where the problem is,
and for the same fault. -/
theorem validate_firstFault (p : Problem α) (twoPhase : Bool) :
    (p.validate twoPhase = .ok () ↔ p.Sound twoPhase) ∧
    (∀ fault, p.validate twoPhase = .error fault ↔ (p.faults twoPhase).head? = some fault) ∧
    (∀ fault, p.tableau twoPhase = .error fault ↔ p.validate twoPhase = .error fault) ∧
    ∀ n tolerance fault, (Solver.mk n tolerance twoPhase).solve p = .error fault ↔
      p.validate twoPhase = .error fault := by
  have tableau : ∀ fault, p.tableau twoPhase = .error fault ↔ p.validate twoPhase = .error fault :=
    fun fault => bind_pure_eq_error_iff
  refine ⟨p.validate_eq_ok_iff_sound twoPhase, fun fault => ?_, tableau,
    fun n tolerance fault => bind_pure_eq_error_iff.trans (tableau fault)⟩
  rw [validate_eq_firstOf, firstOf_eq_error_iff]

/-- The first of these five faults is reported. -/
example :
    ({ names := ["s1", "x", "x"]
       objective := ⟨[1, 1, 1], .maximize⟩
       constraints := [⟨"c1", [1], .ge, -1⟩] } : Problem Rat).faults false =
      [.reservedName "s1", .duplicateVariable "x", .dimensionMismatch (.constraint "c1") 3 1,
        .unsupportedRelation "c1" .ge, .negativeRhs "c1" (-1)] := by
  rfl

end Problem

end LinearProgram

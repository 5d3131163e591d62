import LinearProgram.Draft
import Mathlib.Data.List.Basic

/-!
# The pass over a draft

A draft is read in one pass that has a result and tells warnings.  Here the two are
taken apart: the result comes from filling the parts of the draft one by one, and
the warnings are those about its gaps, which are listed in the order of the draft.
A pass only ever appends to what has been told, so passes are put together like the
texts of their warnings (`Tells`).

* `tells_mapM`: one value after another.
* `DraftConstraint.tells_read_of_ok`, `Draft.tells_foldlM_read`: one constraint, and
  all of them.
* `Draft.tells_fill`: the pass over a whole draft fills it and tells its gaps.
-/

namespace LinearProgram

/-! ## Filling gaps -/

section Filling

variable {α : Type} [Scalar α]

/-- Numbers with zeros in place of the missing ones. -/
def fillNumbers (numbers : List (Option α)) : List α :=
  numbers.map (·.getD 0)

namespace DraftConstraint

/-- The relation of the constraint, or an upper bound. -/
def readRelation (c : DraftConstraint α) : Except UnknownRelation Relation :=
  match c.relation with
  | some text => Relation.parse text
  | none => .ok .le

/-- The constraint at a position with its gaps filled. -/
def fill (index : Nat) (c : DraftConstraint α) : Except UnknownRelation (Constraint α) := do
  let relation ← c.readRelation
  return ⟨c.nameAt index, fillNumbers c.coefficients, relation, c.rhs.getD 0⟩

end DraftConstraint

namespace Draft

/-- Fills constraints from a position on, up to the first that has an unknown relation. -/
def fillFrom (index : Nat) : List (DraftConstraint α) → Except UnknownRelation (List (Constraint α))
  | [] => .ok []
  | c :: rest => do
    let first ← c.fill index
    let others ← fillFrom (index + 1) rest
    return first :: others

/-- The problem with all gaps of a draft filled. -/
def fill (d : Draft α) : Except UnknownRelation (Problem α) := do
  let constraints ← fillFrom 0 d.constraints
  return { names := d.names.getD (defaultVariableNames d.objective.length)
           objective := ⟨fillNumbers d.objective, d.sense.getD .maximize⟩
           constraints }

end Draft

end Filling

/-! ## Listing gaps -/

section Listing

variable {α : Type}

/-- Gaps for the missing ones of some numbers, from left to right. -/
def Gap.ofNumbers (gap : Nat → Gap) (numbers : List (Option α)) : List Gap :=
  numbers.zipIdx.filterMap fun (x, j) => if x.isNone then some (gap (j + 1)) else none

/-- The gaps of the constraint at a position: its relation, its coefficients, its right-hand
side. -/
def DraftConstraint.gaps (index : Nat) (c : DraftConstraint α) : List Gap :=
  let name := c.nameAt index
  (if c.relation.isNone then [Gap.relation name] else []) ++
    Gap.ofNumbers (Gap.coefficient · name) c.coefficients ++
    (if c.rhs.isNone then [Gap.rhs name] else [])

namespace Draft

/-- The gaps of constraints from a position on, up to the first that has an unknown relation. -/
def gapsFrom (index : Nat) : List (DraftConstraint α) → List Gap
  | [] => []
  | c :: rest =>
    match c.readRelation with
    | .error _ => []
    | .ok _ => c.gaps index ++ gapsFrom (index + 1) rest

/-- The gaps of a draft in the order in which they are warned about. -/
def gaps (d : Draft α) : List Gap :=
  (if d.sense.isNone then [Gap.sense] else []) ++ Gap.ofNumbers Gap.objective d.objective ++
    gapsFrom 0 d.constraints

end Draft

end Listing

/-! ## Telling -/

/-- A reading has a result and appends entries to whatever has been told before. -/
def Tells {β : Type} (x : Telling β) (result : Except UnknownRelation β)
    (entries : List LogEntry) : Prop :=
  ∀ told, x.run.run told = (result, told ++ entries)

section Tells

variable {β γ : Type}

theorem tells_pure (x : β) : Tells (pure x) (.ok x) [] :=
  fun told => by rw [List.append_nil]; rfl

theorem tells_tell (entry : LogEntry) : Tells (tell entry) (.ok ()) [entry] :=
  fun _ => rfl

theorem tells_mk (result : Except UnknownRelation β) :
    Tells (ExceptT.mk (pure result)) result [] :=
  fun told => by rw [List.append_nil]; rfl

theorem Tells.bind {x : Telling β} {f : β → Telling γ} {y : β}
    {result : Except UnknownRelation γ} {l m : List LogEntry} (first : Tells x (.ok y) l)
    (next : Tells (f y) result m) : Tells (x >>= f) result (l ++ m) := by
  intro told
  rw [← List.append_assoc, ← next (told ++ l)]
  simp only [ExceptT.run_bind, StateT.run_bind, first told]
  rfl

theorem Tells.bind_pure {x : Telling β} {g : β → γ} {y : β} {l : List LogEntry}
    (first : Tells x (.ok y) l) : Tells (x >>= fun z => pure (g z)) (.ok (g y)) l := by
  rw [← List.append_nil l]
  exact first.bind (tells_pure (g y))

/-- Nothing is told after an error. -/
theorem Tells.bind_error {x : Telling β} {f : β → Telling γ} {e : UnknownRelation}
    {l : List LogEntry} (first : Tells x (.error e) l) : Tells (x >>= f) (.error e) l := by
  intro told
  simp only [ExceptT.run_bind, StateT.run_bind, first told]
  rfl

/-- Where nothing fails, the items of a list are told about from left to right. -/
theorem tells_mapM {f : β → Telling γ} {g : β → γ} {w : β → List LogEntry}
    (each : ∀ x, Tells (f x) (.ok (g x)) (w x)) (l : List β) :
    Tells (l.mapM f) (.ok (l.map g)) (l.flatMap w) := by
  induction l with
  | nil => exact tells_pure []
  | cons x rest ih =>
    rw [List.mapM_cons, List.map_cons, List.flatMap_cons]
    exact (each x).bind ih.bind_pure

end Tells

/-! ## The parts of the pass -/

theorem tells_orDefault {β : Type} (default : β) (gap : Gap) (value : Option β) :
    Tells (orDefault default gap value) (.ok (value.getD default))
      ((if value.isNone then [gap] else []).map Gap.log) := by
  cases value with
  | some x => exact tells_pure x
  | none => exact (tells_tell gap.log).bind (tells_pure default)

variable {α : Type} [Scalar α]

theorem tells_readNumbers (gap : Nat → Gap) (numbers : List (Option α)) :
    Tells (readNumbers gap numbers) (.ok (fillNumbers numbers))
      ((Gap.ofNumbers gap numbers).map Gap.log) := by
  have filled : fillNumbers numbers = numbers.zipIdx.map (·.1.getD 0) :=
    calc fillNumbers numbers = (numbers.zipIdx.map Prod.fst).map (·.getD 0) := by
          rw [List.zipIdx_map_fst, fillNumbers]
      _ = numbers.zipIdx.map (·.1.getD 0) := List.map_map
  have told : (Gap.ofNumbers gap numbers).map Gap.log = numbers.zipIdx.flatMap fun v =>
      (if v.1.isNone then [gap (v.2 + 1)] else []).map Gap.log := by
    rw [Gap.ofNumbers, List.map_filterMap, List.filterMap_eq_flatMap_toList]
    refine congrArg (List.flatMap · numbers.zipIdx) (funext fun v => ?_)
    obtain ⟨x | x, j⟩ := v <;> rfl
  rw [filled, told]
  exact tells_mapM (fun v : Option α × Nat => tells_orDefault 0 (gap (v.2 + 1)) v.1) _

namespace DraftConstraint

omit [Scalar α] in
theorem tells_tellRelation (index : Nat) (c : DraftConstraint α) :
    Tells (c.tellRelation index) c.readRelation
      ((if c.relation.isNone then [Gap.relation (c.nameAt index)] else []).map Gap.log) := by
  unfold tellRelation readRelation
  cases c.relation with
  | none => exact tells_orDefault Relation.le _ none
  | some text => exact tells_mk _

theorem tells_read_of_error {c : DraftConstraint α} {e : UnknownRelation}
    (failed : c.readRelation = .error e) (index : Nat) : Tells (c.read index) (.error e) [] := by
  have relation := c.tells_tellRelation index
  rw [failed] at relation
  cases spelled : c.relation with
  | none =>
    rw [readRelation, spelled] at failed
    cases failed
  | some text =>
    rw [spelled] at relation
    exact relation.bind_error

theorem tells_read_of_ok {c : DraftConstraint α} {r : Relation} (found : c.readRelation = .ok r)
    (index : Nat) :
    ∃ q, c.fill index = .ok q ∧ Tells (c.read index) (.ok q) ((c.gaps index).map Gap.log) := by
  have relation := c.tells_tellRelation index
  rw [found] at relation
  refine ⟨_, by rw [fill, found]; rfl, ?_⟩
  rw [gaps, List.map_append, List.map_append, List.append_assoc]
  refine relation.bind ((tells_readNumbers _ c.coefficients).bind ?_)
  exact (tells_orDefault 0 (.rhs (c.nameAt index)) c.rhs).bind_pure

end DraftConstraint

namespace Draft

theorem tells_foldlM_read (index : Nat) (cs : List (DraftConstraint α)) (p : Problem α) :
    Tells ((cs.zipIdx index).foldlM (fun p (c, i) => do return p.addConstraint (← c.read i)) p)
      ((fillFrom index cs).map fun qs => { p with constraints := p.constraints ++ qs })
      ((gapsFrom index cs).map Gap.log) := by
  induction cs generalizing index p with
  | nil =>
    simp only [fillFrom, Except.map, List.append_nil]
    exact tells_pure p
  | cons c rest ih =>
    rw [List.zipIdx_cons, List.foldlM_cons, fillFrom, gapsFrom]
    cases read : c.readRelation with
    | error e =>
      rw [DraftConstraint.fill, read]
      exact (DraftConstraint.tells_read_of_error read index).bind_error.bind_error
    | ok r =>
      obtain ⟨q, filled, first⟩ := DraftConstraint.tells_read_of_ok read index
      have others := ih (index + 1) (p.addConstraint q)
      have result : (fillFrom (index + 1) rest).map (fun qs =>
            { p.addConstraint q with constraints := (p.addConstraint q).constraints ++ qs }) =
          ((do return q :: (← fillFrom (index + 1) rest)) : Except _ _).map fun qs =>
            { p with constraints := p.constraints ++ qs } := by
        cases fillFrom (index + 1) rest with
        | error e => rfl
        | ok qs => simp [Problem.addConstraint, Except.map, bind, Except.bind, pure, Except.pure]
      rw [result] at others
      rw [filled, List.map_append]
      exact first.bind_pure.bind others

/-- The pass over a draft fills it and tells its gaps. -/
theorem tells_fill (d : Draft α) : Tells d.read d.fill (d.gaps.map Gap.log) := by
  let names := d.names.getD (defaultVariableNames (fillNumbers d.objective).length)
  let start := (Problem.ofVariables names).setObjective (fillNumbers d.objective)
    (d.sense.getD .maximize)
  have result : d.fill = (fillFrom 0 d.constraints).map fun qs =>
      { start with constraints := start.constraints ++ qs } := by
    have count : (fillNumbers d.objective).length = d.objective.length := by simp [fillNumbers]
    unfold fill start names
    rw [count]
    cases fillFrom 0 d.constraints <;> rfl
  rw [result, gaps, List.map_append, List.map_append, List.append_assoc]
  exact (tells_orDefault Sense.maximize .sense d.sense).bind
    ((tells_readNumbers .objective d.objective).bind (tells_foldlM_read 0 d.constraints start))

theorem complete_eq_fill (d : Draft α) : d.complete = d.fill :=
  congrArg Prod.fst (d.tells_fill [])

/-- What is told does not change the result. -/
theorem tells_read (d : Draft α) : Tells d.read d.complete (d.gaps.map Gap.log) := by
  rw [d.complete_eq_fill]
  exact d.tells_fill

end Draft

end LinearProgram

import LinearProgram.Proofs.Draft.Telling
import Mathlib.Data.List.Forall2

/-!
# Completing a draft fills its gaps and does nothing else

A draft is completed without checks.  What a problem must look like in order to
fill the gaps of a draft is said part by part (`Draft.FilledBy`), with the defaults
written out; completion finds the only such problem.  There is none exactly if a
relation is misspelled somewhere, and then the first misspelling is what completion
fails with.

* `DraftConstraint.fill_eq_ok_iff`, `Draft.fillFrom_eq_ok_iff`: one constraint, and all
  of them.
* `Draft.fillFrom_eq_error_iff`: the first misspelling.
* `Draft.complete_fills`: the whole draft.
-/

namespace LinearProgram

namespace Relation

/-- The texts that spell a relation. -/
def spellings : Relation → List String
  | le => ["<=", "≤", "le"]
  | ge => [">=", "≥", "ge"]
  | eq => ["=", "==", "eq"]

theorem ofSpelling?_eq_some_iff {s : String} {r : Relation} :
    ofSpelling? s = some r ↔ s ∈ r.spellings := by
  constructor
  · intro spelled
    unfold ofSpelling? at spelled
    split_ifs at spelled with le ge eq <;> cases spelled
    · simpa [spellings] using le
    · simpa [spellings] using ge
    · simpa [spellings] using eq
  · intro mem
    cases r <;> simp only [spellings, List.mem_cons, List.not_mem_nil, or_false] at mem <;>
      rcases mem with rfl | rfl | rfl <;> rfl

theorem parse_eq_ok_iff {s : String} {r : Relation} :
    parse s = .ok r ↔ Text.trim s ∈ r.spellings := by
  rw [← ofSpelling?_eq_some_iff, parse]
  cases ofSpelling? (Text.trim s) with
  | none => exact ⟨nofun, nofun⟩
  | some other => rw [Except.ok.injEq, Option.some.injEq]

theorem parse_eq_error_iff {s : String} {e : UnknownRelation} :
    parse s = .error e ↔ (∀ r : Relation, Text.trim s ∉ r.spellings) ∧ e = ⟨Text.trim s⟩ := by
  simp only [← ofSpelling?_eq_some_iff, ← Option.eq_none_iff_forall_ne_some, parse]
  cases ofSpelling? (Text.trim s) with
  | none => simp [eq_comm]
  | some other => simp

/-- A symbol is one of the spellings. -/
theorem parse_symbol (r : Relation) : parse r.symbol = .ok r := by
  cases r <;> decide +kernel

end Relation

/-! ## Numbers and results -/

section Results

variable {ε β γ : Type} {first : Except ε β} {next : β → Except ε γ}

theorem except_bind_eq_ok_iff {z : γ} :
    first >>= next = .ok z ↔ ∃ y, first = .ok y ∧ next y = .ok z := by
  cases first with
  | error e => exact ⟨nofun, nofun⟩
  | ok y => simp [bind, Except.bind]

theorem except_bind_eq_error_iff {e : ε} :
    first >>= next = .error e ↔ first = .error e ∨ ∃ y, first = .ok y ∧ next y = .error e := by
  cases first with
  | error other => simp [bind, Except.bind]
  | ok y => simp [bind, Except.bind]

end Results

section Numbers

variable {α : Type} [Scalar α]

/-- Numbers stand for a list with gaps: one for each item, and the same one where there is one. -/
theorem forall₂_getD_iff {numbers : List (Option α)} {xs : List α} :
    List.Forall₂ (fun gap x => x = gap.getD 0) numbers xs ↔ xs = fillNumbers numbers := by
  rw [fillNumbers, eq_comm, ← List.forall₂_eq_eq_eq, List.forall₂_map_left_iff]
  simp only [eq_comm]

theorem fillNumbers_map_some (xs : List α) : fillNumbers (xs.map some) = xs := by
  simp [fillNumbers, Function.comp_def]

theorem fillNumbers_written (numbers : List (Option α)) :
    fillNumbers (numbers.map fun gap => some (gap.getD 0)) = fillNumbers numbers := by
  simp [fillNumbers]

end Numbers

/-! ## One constraint -/

namespace DraftConstraint

variable {α : Type} [Scalar α]

/-- The relation is missing or spelled. -/
def Readable (c : DraftConstraint α) : Prop :=
  ∀ text, c.relation = some text → ∃ r : Relation, Text.trim text ∈ r.spellings

/-- The relation is misspelled, which is what the error reports, without the blanks around it. -/
def Rejects (c : DraftConstraint α) (e : UnknownRelation) : Prop :=
  ∃ text, c.relation = some text ∧ (∀ r : Relation, Text.trim text ∉ r.spellings) ∧
    e = ⟨Text.trim text⟩

/-- A constraint has what stands in the draft of the constraint at a position, and the default where
nothing stands: the letter `c` with the position, counted from one, is its name. -/
structure FilledBy (index : Nat) (c : DraftConstraint α) (q : Constraint α) : Prop where
  name : q.name = c.name.getD ("c" ++ toString (index + 1))
  coefficients : List.Forall₂ (fun gap x => x = gap.getD 0) c.coefficients q.coefficients
  spelled : ∀ text, c.relation = some text → Text.trim text ∈ q.relation.spellings
  bounded : c.relation = none → q.relation = .le
  rhs : q.rhs = c.rhs.getD 0

/-- The draft with every gap written out. -/
def written (index : Nat) (c : DraftConstraint α) : DraftConstraint α :=
  { name := some (c.name.getD ("c" ++ toString (index + 1)))
    coefficients := c.coefficients.map fun gap => some (gap.getD 0)
    relation := some (c.relation.getD "<=")
    rhs := some (c.rhs.getD 0) }

omit [Scalar α] in
theorem readRelation_eq_ok_iff {c : DraftConstraint α} {r : Relation} :
    c.readRelation = .ok r ↔
      (∀ text, c.relation = some text → Text.trim text ∈ r.spellings) ∧
      (c.relation = none → r = .le) := by
  unfold readRelation
  cases c.relation with
  | none => simp [eq_comm]
  | some text => simp [Relation.parse_eq_ok_iff]

omit [Scalar α] in
theorem readRelation_eq_error_iff {c : DraftConstraint α} {e : UnknownRelation} :
    c.readRelation = .error e ↔ c.Rejects e := by
  unfold readRelation Rejects
  cases c.relation with
  | none => simp
  | some text => simp [Relation.parse_eq_error_iff]

omit [Scalar α] in
theorem readable_iff (c : DraftConstraint α) : c.Readable ↔ ∃ r, c.readRelation = .ok r := by
  unfold readRelation Readable
  cases c.relation with
  | none => simp
  | some text => simp [Relation.parse_eq_ok_iff]

omit [Scalar α] in
theorem not_readable_iff (c : DraftConstraint α) : ¬ c.Readable ↔ ∃ e, c.Rejects e := by
  simp only [← readRelation_eq_error_iff, readable_iff]
  cases c.readRelation <;> simp

theorem fill_eq_ok_iff {index : Nat} {c : DraftConstraint α} {q : Constraint α} :
    c.fill index = .ok q ↔ c.FilledBy index q := by
  have parts : c.fill index = .ok q ↔ c.readRelation = .ok q.relation ∧
      q.name = c.nameAt index ∧ q.coefficients = fillNumbers c.coefficients ∧
      q.rhs = c.rhs.getD 0 := by
    obtain ⟨name, coefficients, relation, rhs⟩ := q
    simp only [fill, except_bind_eq_ok_iff, pure, Except.pure, Except.ok.injEq,
      Constraint.mk.injEq]
    constructor
    · rintro ⟨r, read, rfl, rfl, rfl, rfl⟩
      exact ⟨read, rfl, rfl, rfl⟩
    · rintro ⟨read, rfl, rfl, rfl⟩
      exact ⟨relation, read, rfl, rfl, rfl, rfl⟩
  rw [parts, readRelation_eq_ok_iff, ← forall₂_getD_iff]
  constructor
  · rintro ⟨⟨spelled, bounded⟩, name, coefficients, rhs⟩
    exact ⟨name, coefficients, spelled, bounded, rhs⟩
  · rintro ⟨name, coefficients, spelled, bounded, rhs⟩
    exact ⟨⟨spelled, bounded⟩, name, coefficients, rhs⟩

theorem fill_eq_error_iff {index : Nat} {c : DraftConstraint α} {e : UnknownRelation} :
    c.fill index = .error e ↔ c.Rejects e := by
  rw [← readRelation_eq_error_iff, fill, except_bind_eq_error_iff]
  apply or_iff_left
  rintro ⟨_, _, failed⟩
  cases failed

theorem exists_fill_eq_ok_iff (index : Nat) (c : DraftConstraint α) :
    (∃ q, c.fill index = .ok q) ↔ c.Readable := by
  rw [readable_iff]
  simp only [fill, except_bind_eq_ok_iff]
  constructor
  · rintro ⟨_, r, read, _⟩
    exact ⟨r, read⟩
  · rintro ⟨r, read⟩
    exact ⟨_, r, read, rfl⟩

theorem fill_written (index : Nat) (c : DraftConstraint α) :
    (c.written index).fill index = c.fill index := by
  have relation : (c.written index).readRelation = c.readRelation := by
    unfold readRelation written
    cases c.relation with
    | none => exact Relation.parse_symbol .le
    | some text => rfl
  unfold fill
  rw [relation, written, fillNumbers_written]
  rfl

theorem fill_ofConstraint (index : Nat) (q : Constraint α) :
    (ofConstraint q).fill index = .ok q := by
  refine fill_eq_ok_iff.mpr ⟨rfl, forall₂_getD_iff.mpr (fillNumbers_map_some _).symm, ?_, nofun,
    rfl⟩
  intro text written
  obtain rfl : q.relation.symbol = text := Option.some.inj written
  exact Relation.parse_eq_ok_iff.mp q.relation.parse_symbol

end DraftConstraint

/-! ## All constraints -/

namespace Draft

variable {α : Type} [Scalar α]

/-- Constraints are completed one by one, each at its own position. -/
theorem fillFrom_eq_ok_iff {index : Nat} {cs : List (DraftConstraint α)}
    {qs : List (Constraint α)} :
    fillFrom index cs = .ok qs ↔
      List.Forall₂ (fun c q => c.1.FilledBy c.2 q) (cs.zipIdx index) qs := by
  induction cs generalizing index qs with
  | nil => simp [fillFrom, eq_comm]
  | cons c rest ih =>
    simp only [fillFrom, except_bind_eq_ok_iff, List.zipIdx_cons, List.forall₂_cons_left_iff,
      DraftConstraint.fill_eq_ok_iff, ih, pure, Except.pure, Except.ok.injEq]
    constructor
    · rintro ⟨q, first, others, rest, rfl⟩
      exact ⟨q, others, first, rest, rfl⟩
    · rintro ⟨q, others, first, rest, rfl⟩
      exact ⟨q, first, others, rest, rfl⟩

theorem fillFrom_cons_eq_error_iff {index : Nat} {c : DraftConstraint α}
    {rest : List (DraftConstraint α)} {e : UnknownRelation} :
    fillFrom index (c :: rest) = .error e ↔
      c.Rejects e ∨ c.Readable ∧ fillFrom (index + 1) rest = .error e := by
  simp only [fillFrom, except_bind_eq_error_iff, DraftConstraint.fill_eq_error_iff,
    ← DraftConstraint.exists_fill_eq_ok_iff index c]
  refine or_congr_right ⟨?_, ?_⟩
  · rintro ⟨q, first, failed | ⟨_, _, failed⟩⟩
    · exact ⟨⟨q, first⟩, failed⟩
    · cases failed
  · rintro ⟨⟨q, first⟩, failed⟩
    exact ⟨q, first, Or.inl failed⟩

/-- Completion fails at the first misspelled relation. -/
theorem fillFrom_eq_error_iff {index : Nat} {cs : List (DraftConstraint α)}
    {e : UnknownRelation} :
    fillFrom index cs = .error e ↔
      ∃ before c after, cs = before ++ c :: after ∧ (∀ b ∈ before, b.Readable) ∧ c.Rejects e := by
  induction cs generalizing index with
  | nil => simp [fillFrom]
  | cons c rest ih =>
    rw [fillFrom_cons_eq_error_iff, ih]
    constructor
    · rintro (rejects | ⟨readable, before, c', after, rfl, others, rejects⟩)
      · exact ⟨[], c, rest, rfl, List.forall_mem_nil _, rejects⟩
      · exact ⟨c :: before, c', after, rfl, List.forall_mem_cons.mpr ⟨readable, others⟩, rejects⟩
    · rintro ⟨before, c', after, split, readable, rejects⟩
      cases before with
      | nil =>
        cases split
        exact Or.inl rejects
      | cons b before =>
        cases split
        obtain ⟨first, others⟩ := List.forall_mem_cons.mp readable
        exact Or.inr ⟨first, before, c', after, rfl, others, rejects⟩

theorem exists_fillFrom_eq_error_iff {index : Nat} {cs : List (DraftConstraint α)} :
    (∃ e, fillFrom index cs = .error e) ↔ ∃ c ∈ cs, ¬ c.Readable := by
  induction cs generalizing index with
  | nil => simp [fillFrom]
  | cons c rest ih =>
    simp only [fillFrom_cons_eq_error_iff, List.exists_mem_cons_iff, exists_or, exists_and_left,
      ih, ← DraftConstraint.not_readable_iff]
    exact ⟨fun failed => failed.imp_right And.right, fun failed =>
      (Classical.em c.Readable).elim (fun readable => failed.imp_right fun rest => ⟨readable, rest⟩)
        Or.inl⟩

/-! ## The whole draft -/

/-- A problem has what stands in a draft, and the default where nothing stands: its sense is to
maximise, its names are `x1`, `x2` and so on, as many as the objective has numbers, and its
constraints are those of the draft one by one. -/
structure FilledBy (d : Draft α) (p : Problem α) : Prop where
  sense : p.objective.sense = d.sense.getD .maximize
  objective : List.Forall₂ (fun gap x => x = gap.getD 0) d.objective p.objective.coefficients
  names : p.names = d.names.getD ((List.range d.objective.length).map fun j => "x" ++ toString (j + 1))
  constraints : List.Forall₂ (fun c q => c.1.FilledBy c.2 q) d.constraints.zipIdx p.constraints

/-- The draft with every gap written out. -/
def written (d : Draft α) : Draft α :=
  { sense := some (d.sense.getD .maximize)
    names := some (d.names.getD ((List.range d.objective.length).map fun j => "x" ++ toString (j + 1)))
    objective := d.objective.map fun gap => some (gap.getD 0)
    constraints := d.constraints.zipIdx.map fun (c, i) => c.written i }

theorem fill_eq_ok_iff {d : Draft α} {p : Problem α} :
    d.fill = .ok p ↔ d.FilledBy p := by
  obtain ⟨names, ⟨objective, sense⟩, constraints⟩ := p
  simp only [fill, except_bind_eq_ok_iff, fillFrom_eq_ok_iff, pure, Except.pure,
    Except.ok.injEq, Problem.mk.injEq, Objective.mk.injEq]
  constructor
  · rintro ⟨qs, filled, rfl, ⟨rfl, rfl⟩, rfl⟩
    exact ⟨rfl, forall₂_getD_iff.mpr rfl, rfl, filled⟩
  · rintro ⟨rfl, filled, rfl, each⟩
    exact ⟨constraints, each, rfl, ⟨(forall₂_getD_iff.mp filled).symm, rfl⟩, rfl⟩

theorem fill_eq_error_iff {d : Draft α} {e : UnknownRelation} :
    d.fill = .error e ↔ fillFrom 0 d.constraints = .error e := by
  rw [fill, except_bind_eq_error_iff]
  apply or_iff_left
  rintro ⟨_, _, failed⟩
  cases failed

theorem fillFrom_written (index : Nat) (cs : List (DraftConstraint α)) :
    fillFrom index ((cs.zipIdx index).map fun (c, i) => c.written i) =
      fillFrom index cs := by
  induction cs generalizing index with
  | nil => rfl
  | cons c rest ih =>
    rw [List.zipIdx_cons, List.map_cons, fillFrom, fillFrom, ih,
      DraftConstraint.fill_written]

theorem fill_written (d : Draft α) : d.written.fill = d.fill := by
  unfold fill
  simp only [written, fillFrom_written, fillNumbers_written, List.length_map, Option.getD_some]
  rfl

theorem fillFrom_ofConstraints (index : Nat) (qs : List (Constraint α)) :
    fillFrom index (qs.map DraftConstraint.ofConstraint) = .ok qs := by
  induction qs generalizing index with
  | nil => rfl
  | cons q rest ih =>
    have first : (DraftConstraint.ofConstraint q).fill index = .ok q :=
      DraftConstraint.fill_ofConstraint index q
    rw [List.map_cons, fillFrom, first, ih]
    rfl

/-- What is written out in full is read back. -/
theorem fill_ofProblem (p : Problem α) : (ofProblem p).fill = .ok p := by
  have constraints : fillFrom 0 (ofProblem p).constraints = .ok p.constraints :=
    fillFrom_ofConstraints 0 p.constraints
  unfold fill
  rw [constraints]
  simp [ofProblem, fillNumbers_map_some, bind, Except.bind, pure, Except.pure]

/-- Completion fills the gaps of a draft and leaves everything else as it is.  It finds the problem
that has what the draft has and the defaults elsewhere, and fails exactly if some relation is
misspelled, with the first one, where no problem fills the draft.  It cannot tell a gap from its
default, and finds any problem again in its own draft. -/
theorem complete_fills (d : Draft α) :
    (∀ p, d.complete = .ok p ↔ d.FilledBy p) ∧
    (∀ e, d.complete = .error e ↔ ∃ before c after, d.constraints = before ++ c :: after ∧
      (∀ b ∈ before, b.Readable) ∧ c.Rejects e) ∧
    ((∃ e, d.complete = .error e) ↔ ∃ c ∈ d.constraints, ∃ text, c.relation = some text ∧
      ∀ r : Relation, Text.trim text ∉ r.spellings) ∧
    d.written.complete = d.complete ∧
    ∀ p : Problem α, (ofProblem p).complete = .ok p := by
  simp only [complete_eq_fill]
  refine ⟨fun p => fill_eq_ok_iff,
    fun e => fill_eq_error_iff.trans fillFrom_eq_error_iff, ?_, d.fill_written, fill_ofProblem⟩
  simp only [fill_eq_error_iff, exists_fillFrom_eq_error_iff, DraftConstraint.Readable,
    not_forall, not_exists, exists_prop]

/-- A draft without names of its variables, and with a constraint without a name. -/
def unnamed : Draft Rat :=
  { sense := none
    names := none
    objective := [some 3, none]
    constraints := [⟨some "cap", [some 1, some 1], some " ≥ ", some 2⟩, ⟨none, [none], none, none⟩] }

theorem complete_fills_unnamed :
    unnamed.complete = .ok
      ⟨["x1", "x2"], ⟨[3, 0], .maximize⟩, [⟨"cap", [1, 1], .ge, 2⟩, ⟨"c2", [0], .le, 0⟩]⟩ := by
  refine ((complete_fills unnamed).1 _).mpr ⟨rfl, ?_, rfl, ?_⟩
  · exact .cons rfl (.cons rfl .nil)
  · refine .cons ⟨rfl, .cons rfl (.cons rfl .nil), ?_, nofun, rfl⟩
      (.cons ⟨rfl, .cons rfl .nil, nofun, fun _ => rfl, rfl⟩ .nil)
    intro text spelled
    obtain rfl : " ≥ " = text := Option.some.inj spelled
    decide +kernel

end Draft

end LinearProgram

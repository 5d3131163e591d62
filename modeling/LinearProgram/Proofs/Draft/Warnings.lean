import LinearProgram.Proofs.Draft.Completion
import Mathlib.Data.List.Pairwise

/-!
# The warnings about a draft

The parts of a draft have places, in an order of their own.  The warnings are about
the places where something is missing, in this order, each once, and as far as no
relation before or at the place is misspelled.  `Draft.warningAt` says for each kind
of place what is told about it.

* `missingAt`: the positions of missing numbers.
* `Draft.map_gapAt_places`, `Draft.mem_places_iff`, `Draft.pairwise_places`: the
  places of the gaps of a draft, which they are, and their order.
* `Draft.read_tells`: what a reader of drafts is told.
-/

namespace LinearProgram

/-! ## Lists -/

section Lists

variable {β : Type}

theorem getElem?_takeWhile_eq_some_iff {p : β → Bool} {l : List β} {i : Nat} {x : β} :
    (l.takeWhile p)[i]? = some x ↔ l[i]? = some x ∧ ∀ y ∈ l.take (i + 1), p y = true := by
  induction l generalizing i with
  | nil => simp
  | cons z rest ih =>
    rw [List.takeWhile_cons, List.take_succ_cons, List.forall_mem_cons]
    cases good : p z with
    | false => simp
    | true =>
      cases i with
      | zero => simp
      | succ i => simp [ih]

theorem pairwise_snd_zipIdx (l : List β) (k : Nat) :
    (l.zipIdx k).Pairwise fun v w => v.2 < w.2 := by
  rw [← List.pairwise_map (f := Prod.snd) (R := (· < ·)), List.zipIdx_map_snd]
  exact List.pairwise_lt_range'

theorem pairwise_ite_singleton (R : β → β → Prop) (p : Prop) [Decidable p] (x : β) :
    (if p then [x] else []).Pairwise R := by
  split
  · exact List.pairwise_singleton R x
  · exact List.Pairwise.nil

/-- The positions of what is missing, counted from zero. -/
def missingAt (values : List (Option β)) : List Nat :=
  values.zipIdx.filterMap fun v => if v.1.isNone then some v.2 else none

theorem mem_missingAt {values : List (Option β)} {j : Nat} :
    j ∈ missingAt values ↔ values[j]? = some none := by
  simp only [missingAt, List.mem_filterMap, Prod.exists, List.mem_zipIdx_iff_getElem?]
  constructor
  · rintro ⟨x | x, k, found, missing⟩
    · cases missing
      exact found
    · cases missing
  · exact fun found => ⟨none, j, found, rfl⟩

theorem pairwise_missingAt (values : List (Option β)) :
    (missingAt values).Pairwise (· < ·) := by
  refine List.pairwise_filterMap.mpr ((pairwise_snd_zipIdx values 0).imp ?_)
  intro v w before j missing k missing'
  rw [Option.ite_none_right_eq_some] at missing missing'
  cases missing.2
  cases missing'.2
  exact before

theorem Gap.ofNumbers_eq_map (gap : Nat → Gap) (values : List (Option β)) :
    Gap.ofNumbers gap values = (missingAt values).map fun j => gap (j + 1) := by
  rw [Gap.ofNumbers, missingAt, List.map_filterMap]
  refine List.filterMap_congr fun v _ => ?_
  obtain ⟨x | x, j⟩ := v <;> rfl

end Lists

/-! ## Places -/

/-- A part of a draft that may be missing.  Constraints and numbers are counted from zero. -/
inductive Place : Type where
  | sense
  | objective (j : Nat)
  | relation (i : Nat)
  | coefficient (i j : Nat)
  | rhs (i : Nat)

namespace Place

/-- Where a place stands: first the sense, then the objective, then one constraint after the other,
and in a constraint its relation, its coefficients and its right-hand side. -/
def key : Place → List Nat
  | sense => [0]
  | objective j => [1, j]
  | relation i => [i + 2, 0]
  | coefficient i j => [i + 2, 1, j]
  | rhs i => [i + 2, 2]

/-- One place stands before another. -/
def Before (x y : Place) : Prop := x.key < y.key

theorem before_of_head_lt {x y : Place} {i k : Nat} {l m : List Nat} (head_x : x.key = i :: l)
    (head_y : y.key = k :: m) (lt : i < k) : x.Before y := by
  rw [Before, head_x, head_y]
  exact List.cons_lt_cons_iff.mpr (Or.inl lt)

end Place

variable {α : Type}

/-- The places of the gaps of the constraint at a position. -/
def DraftConstraint.places (i : Nat) (c : DraftConstraint α) : List Place :=
  (if c.relation.isNone then [.relation i] else []) ++
    (missingAt c.coefficients).map (.coefficient i) ++ (if c.rhs.isNone then [.rhs i] else [])

namespace DraftConstraint

/-- Whether the relation is missing or spelled. -/
def isReadable (c : DraftConstraint α) : Bool := c.readRelation.isOk

theorem isReadable_iff (c : DraftConstraint α) : c.isReadable = true ↔ c.Readable := by
  rw [readable_iff, isReadable]
  cases c.readRelation with
  | error e => simp [Except.isOk, Except.toBool]
  | ok r => simp [Except.isOk, Except.toBool]

theorem mem_places_iff {c : DraftConstraint α} {k : Nat} {x : Place} :
    x ∈ c.places k ↔ (x = .relation k ∧ c.relation = none) ∨
      (∃ j, x = .coefficient k j ∧ c.coefficients[j]? = some none) ∨
      (x = .rhs k ∧ c.rhs = none) := by
  simp only [places, List.mem_append, List.mem_ite_nil_right, List.mem_singleton, List.mem_map,
    mem_missingAt, Option.isNone_iff_eq_none, or_assoc, and_comm (b := x = _), eq_comm (b := x)]

theorem key_of_mem_places {c : DraftConstraint α} {k : Nat} {x : Place} (mem : x ∈ c.places k) :
    ∃ rest, x.key = (k + 2) :: rest := by
  rcases mem_places_iff.mp mem with ⟨rfl, -⟩ | ⟨j, rfl, -⟩ | ⟨rfl, -⟩
  all_goals exact ⟨_, rfl⟩

theorem pairwise_places (k : Nat) (c : DraftConstraint α) :
    (c.places k).Pairwise Place.Before := by
  have coefficients : ((missingAt c.coefficients).map (Place.coefficient k)).Pairwise
      Place.Before := by
    refine List.pairwise_map.mpr ((pairwise_missingAt _).imp fun {j l} before => ?_)
    simp [Place.Before, Place.key, List.cons_lt_cons_iff, before]
  refine List.pairwise_append.mpr ⟨List.pairwise_append.mpr
    ⟨pairwise_ite_singleton _ _ _, coefficients, ?_⟩, pairwise_ite_singleton _ _ _, ?_⟩
  · intro x mem_x y mem_y
    rw [List.mem_ite_nil_right, List.mem_singleton] at mem_x
    obtain ⟨j, -, rfl⟩ := List.mem_map.mp mem_y
    simp [mem_x.2, Place.Before, Place.key, List.cons_lt_cons_iff]
  · intro x mem_x y mem_y
    rw [List.mem_ite_nil_right, List.mem_singleton] at mem_y
    rw [List.mem_append, List.mem_ite_nil_right, List.mem_singleton, List.mem_map] at mem_x
    rcases mem_x with ⟨-, rfl⟩ | ⟨j, -, rfl⟩
    all_goals simp [mem_y.2, Place.Before, Place.key, List.cons_lt_cons_iff]

end DraftConstraint

namespace Draft

/-- The constraints before the first that has a misspelled relation. -/
def readablePart (d : Draft α) : List (DraftConstraint α) :=
  d.constraints.takeWhile (·.isReadable)

/-- The places of the gaps of a draft. -/
def places (d : Draft α) : List Place :=
  (if d.sense.isNone then [.sense] else []) ++ (missingAt d.objective).map .objective ++
    d.readablePart.zipIdx.flatMap fun (c, i) => c.places i

/-- Something is missing at a place. -/
def Misses (d : Draft α) : Place → Prop
  | .sense => d.sense = none
  | .objective j => d.objective[j]? = some none
  | .relation i => ∃ c, d.constraints[i]? = some c ∧ c.relation = none
  | .coefficient i j => ∃ c, d.constraints[i]? = some c ∧ c.coefficients[j]? = some none
  | .rhs i => ∃ c, d.constraints[i]? = some c ∧ c.rhs = none

/-- No relation is misspelled in the constraint of a place, nor in one before it. -/
def Reaches (d : Draft α) : Place → Prop
  | .sense | .objective _ => True
  | .relation i | .coefficient i _ | .rhs i => ∀ c ∈ d.constraints.take (i + 1), c.Readable

/-- The name of the constraint at a position; without one, the letter `c` with the position counted
from one. -/
def nameOf (d : Draft α) (i : Nat) : String :=
  (d.constraints[i]?.bind DraftConstraint.name).getD ("c" ++ toString (i + 1))

/-- The gap at a place.  Its position is counted from one. -/
def gapAt (d : Draft α) : Place → Gap
  | .sense => .sense
  | .objective j => .objective (j + 1)
  | .relation i => .relation (d.nameOf i)
  | .coefficient i j => .coefficient (j + 1) (d.nameOf i)
  | .rhs i => .rhs (d.nameOf i)

/-- The entry about a number that is missing where the location says. -/
def zeroWarning (location : String) : LogEntry :=
  { level := .warn
    speaker := "simplex::input"
    message := "missing value defaulted to 0"
    fields := [("location", location)] }

/-- The entry about a place where something is missing.  Positions are counted from one. -/
def warningAt (d : Draft α) : Place → LogEntry
  | .sense =>
    { level := .warn
      speaker := "simplex::input"
      message := "objective sense missing, defaulting to maximize"
      fields := [] }
  | .objective j => zeroWarning ("objective coefficient " ++ toString (j + 1))
  | .relation i =>
    { level := .warn
      speaker := "simplex::input"
      message := "operator missing, defaulting to <="
      fields := [("constraint", d.nameOf i)] }
  | .coefficient i j =>
    zeroWarning ("coefficient " ++ toString (j + 1) ++ " of constraint " ++ d.nameOf i)
  | .rhs i => zeroWarning ("right-hand side of constraint " ++ d.nameOf i)

/-! ## The gaps of a draft -/

theorem gapsFrom_eq_flatMap (index : Nat) (cs : List (DraftConstraint α)) :
    gapsFrom index cs = ((cs.takeWhile (·.isReadable)).zipIdx index).flatMap fun (c, i) =>
      c.gaps i := by
  induction cs generalizing index with
  | nil => rfl
  | cons c rest ih =>
    rw [gapsFrom, List.takeWhile_cons, DraftConstraint.isReadable]
    cases c.readRelation with
    | error e => simp [Except.isOk, Except.toBool]
    | ok r => simp [Except.isOk, Except.toBool, ih]

theorem mem_readablePart_iff {d : Draft α} {c : DraftConstraint α} {i : Nat} :
    (c, i) ∈ d.readablePart.zipIdx ↔
      d.constraints[i]? = some c ∧ ∀ b ∈ d.constraints.take (i + 1), b.Readable := by
  rw [List.mem_zipIdx_iff_getElem?, readablePart, getElem?_takeWhile_eq_some_iff]
  simp only [DraftConstraint.isReadable_iff]

theorem nameOf_eq {d : Draft α} {c : DraftConstraint α} {i : Nat}
    (at_i : d.constraints[i]? = some c) : d.nameOf i = c.nameAt i := by
  rw [nameOf, at_i]
  rfl

/-- The gaps of a draft are those at its places. -/
theorem map_gapAt_places (d : Draft α) : d.places.map d.gapAt = d.gaps := by
  have constraint : ∀ v ∈ d.readablePart.zipIdx,
      (v.1.places v.2).map d.gapAt = v.1.gaps v.2 := by
    rintro ⟨c, i⟩ mem
    have name : d.nameOf i = c.nameAt i := nameOf_eq (mem_readablePart_iff.mp mem).1
    simp only [DraftConstraint.places, DraftConstraint.gaps, Gap.ofNumbers_eq_map, List.map_append,
      List.map_map, ← name]
    congr 2
    · cases c.relation <;> rfl
    · cases c.rhs <;> rfl
  rw [gaps, gapsFrom_eq_flatMap, Gap.ofNumbers_eq_map, places, List.map_append, List.map_append,
    List.map_map, List.map_flatMap]
  refine congrArg₂ _ (congrArg₂ _ ?_ rfl) (List.flatMap_congr constraint)
  cases d.sense <;> rfl

theorem log_gapAt (d : Draft α) (x : Place) : (d.gapAt x).log = d.warningAt x := by
  cases x <;> rfl

/-- What is told about the gaps of a draft is told about their places. -/
theorem map_log_gaps (d : Draft α) : d.gaps.map Gap.log = d.places.map d.warningAt := by
  rw [← d.map_gapAt_places, List.map_map]
  exact List.map_congr_left fun x _ => d.log_gapAt x

/-- The places of the gaps are those that the reading reaches and where something is missing. -/
theorem mem_places_iff {d : Draft α} {x : Place} : x ∈ d.places ↔ d.Misses x ∧ d.Reaches x := by
  have constraints : (∃ v ∈ d.readablePart.zipIdx, x ∈ v.1.places v.2) ↔ ∃ c i,
      (d.constraints[i]? = some c ∧ x ∈ c.places i) ∧
      ∀ b ∈ d.constraints.take (i + 1), b.Readable := by
    simp only [Prod.exists, mem_readablePart_iff, and_right_comm]
  rw [places, List.mem_append, List.mem_append, List.mem_flatMap, constraints]
  simp only [DraftConstraint.mem_places_iff]
  cases x with
  | sense => simp [Misses, Reaches]
  | objective j => simp [Misses, Reaches, mem_missingAt]
  | relation i => simp [Misses, Reaches]
  | coefficient i j => simp [Misses, Reaches]
  | rhs i => simp [Misses, Reaches]

/-- The places of the gaps are in order. -/
theorem pairwise_places (d : Draft α) : d.places.Pairwise Place.Before := by
  have constraints : (d.readablePart.zipIdx.flatMap fun (c, i) => c.places i).Pairwise
      Place.Before := by
    refine List.pairwise_flatMap.mpr ⟨fun v _ => v.1.pairwise_places v.2, ?_⟩
    refine (pairwise_snd_zipIdx _ 0).imp fun {v w} before x mem_x y mem_y => ?_
    obtain ⟨l, head_x⟩ := DraftConstraint.key_of_mem_places mem_x
    obtain ⟨m, head_y⟩ := DraftConstraint.key_of_mem_places mem_y
    exact Place.before_of_head_lt head_x head_y (Nat.add_lt_add_right before 2)
  have objective : ((missingAt d.objective).map Place.objective).Pairwise Place.Before := by
    refine List.pairwise_map.mpr ((pairwise_missingAt _).imp fun {j l} before => ?_)
    simp [Place.Before, Place.key, List.cons_lt_cons_iff, before]
  have head : ∀ y ∈ d.readablePart.zipIdx.flatMap fun (c, i) => c.places i,
      ∃ i rest, y.key = (i + 2) :: rest := by
    intro y mem
    obtain ⟨v, -, mem⟩ := List.mem_flatMap.mp mem
    exact ⟨v.2, DraftConstraint.key_of_mem_places mem⟩
  refine List.pairwise_append.mpr ⟨List.pairwise_append.mpr
    ⟨pairwise_ite_singleton _ _ _, objective, ?_⟩, constraints, ?_⟩
  · intro x mem_x y mem_y
    rw [List.mem_ite_nil_right, List.mem_singleton] at mem_x
    obtain ⟨j, -, rfl⟩ := List.mem_map.mp mem_y
    exact Place.before_of_head_lt (congrArg Place.key mem_x.2) rfl Nat.zero_lt_one
  · intro x mem_x y mem_y
    obtain ⟨i, rest, head_y⟩ := head y mem_y
    rw [List.mem_append, List.mem_ite_nil_right, List.mem_singleton, List.mem_map] at mem_x
    rcases mem_x with ⟨-, rfl⟩ | ⟨j, -, rfl⟩
    · exact Place.before_of_head_lt rfl head_y (by omega)
    · exact Place.before_of_head_lt rfl head_y (by omega)

/-- No gap is told from a misspelled relation on. -/
theorem gaps_eq_of_rejects {d : Draft α} {before after : List (DraftConstraint α)}
    {c : DraftConstraint α} {e : UnknownRelation} (split : d.constraints = before ++ c :: after)
    (readable : ∀ b ∈ before, b.Readable) (rejects : c.Rejects e) :
    d.gaps = { d with constraints := before }.gaps := by
  have read : ∀ b ∈ before, b.isReadable = true :=
    fun b mem => b.isReadable_iff.mpr (readable b mem)
  have unread : ¬ c.isReadable = true := by
    rw [c.isReadable_iff, c.not_readable_iff]
    exact ⟨e, rejects⟩
  have cut : d.constraints.takeWhile (·.isReadable) = before.takeWhile (·.isReadable) := by
    rw [split, List.takeWhile_append_of_pos read, List.takeWhile_cons, if_neg unread,
      List.append_nil, ← List.append_nil before, List.takeWhile_append_of_pos read]
    simp
  rw [gaps, gaps, gapsFrom_eq_flatMap, gapsFrom_eq_flatMap, cut]

variable [Scalar α]

/-- A draft in which every gap is written out has none left. -/
theorem gaps_written (d : Draft α) : d.written.gaps = [] := by
  rw [← map_gapAt_places, List.map_eq_nil_iff, List.eq_nil_iff_forall_not_mem]
  intro x mem
  have misses := (mem_places_iff.mp mem).1
  cases x with
  | sense => cases misses
  | objective j => simp [Misses, written] at misses
  | relation i | coefficient i j | rhs i =>
    simp [Misses, written, DraftConstraint.written] at misses

/-- Reading a draft warns about each gap once, and about nothing else: the entries are those about
the places where something is missing, in the order of the draft, as far as the reading comes.  A
misspelled relation ends it, so the entries are then those about the draft that stops before this
constraint. -/
theorem read_tells (d : Draft α) :
    ∃ places : List Place,
      Tells d.read d.complete (places.map d.warningAt) ∧ places.Pairwise Place.Before ∧
      (∀ x, x ∈ places ↔ d.Misses x ∧ d.Reaches x) ∧
      ∀ before c after e, d.constraints = before ++ c :: after → (∀ b ∈ before, b.Readable) →
        c.Rejects e →
        Tells { d with constraints := before }.read { d with constraints := before }.complete
          (places.map d.warningAt) := by
  refine ⟨d.places, ?_, d.pairwise_places, fun _ => mem_places_iff, ?_⟩
  · rw [← d.map_log_gaps]
    exact d.tells_read
  · intro before c after e split readable rejects
    rw [← d.map_log_gaps, gaps_eq_of_rejects split readable rejects]
    exact tells_read _

/-- A draft with a gap of every kind, and with a misspelled relation in its second constraint. -/
def scribbled : Draft Rat :=
  { sense := none
    names := none
    objective := [some 3, none]
    constraints := [⟨none, [none, some 1], none, none⟩, ⟨some "cap", [none], some " < ", none⟩] }

/-- What is told about it: nothing about the second constraint. -/
def scribbledWarnings : List LogEntry :=
  [⟨.warn, "simplex::input", "objective sense missing, defaulting to maximize", []⟩,
    ⟨.warn, "simplex::input", "missing value defaulted to 0",
      [("location", "objective coefficient 2")]⟩,
    ⟨.warn, "simplex::input", "operator missing, defaulting to <=", [("constraint", "c1")]⟩,
    ⟨.warn, "simplex::input", "missing value defaulted to 0",
      [("location", "coefficient 1 of constraint c1")]⟩,
    ⟨.warn, "simplex::input", "missing value defaulted to 0",
      [("location", "right-hand side of constraint c1")]⟩]

theorem read_tells_scribbled :
    Tells scribbled.read (.error ⟨"<"⟩) scribbledWarnings := by
  obtain ⟨places, told, -, -, cut⟩ := read_tells scribbled
  have readable : ∀ b ∈ scribbled.constraints.take 1, b.Readable := by
    intro b mem text written
    obtain rfl := List.mem_singleton.mp mem
    cases written
  have rejects : DraftConstraint.Rejects
      (⟨some "cap", [none], some " < ", none⟩ : DraftConstraint Rat) ⟨"<"⟩ :=
    ⟨" < ", rfl, fun r => by cases r <;> decide +kernel, by decide +kernel⟩
  have failed : scribbled.complete = .error ⟨"<"⟩ := by
    rw [complete_eq_fill, fill_eq_error_iff, fillFrom_eq_error_iff]
    exact ⟨_, _, [], rfl, readable, rejects⟩
  -- The pass over the first constraint alone has told the same, and no relation is read in it.
  have same : ({ scribbled with constraints := scribbled.constraints.take 1 }.read.run.run []).2 =
      places.map scribbled.warningAt := by
    rw [cut _ _ [] _ rfl readable rejects []]
    rfl
  rw [failed, ← same] at told
  have entries : ({ scribbled with constraints := scribbled.constraints.take 1 }.read.run.run []).2 =
      scribbledWarnings := by decide +kernel
  rwa [entries] at told

end Draft

end LinearProgram

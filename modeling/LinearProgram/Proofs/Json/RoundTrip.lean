import LinearProgram.Json.Report
import LinearProgram.Proofs.Json.Record
import LinearProgram.Proofs.Json.Text

/-!
# Problems, pivots and solutions survive JSON

Each of them is written as a record and read back as it was, whatever its names,
its lengths and its words are, as long as its numbers are finite and preserved by
numerals.  What is read from some text has finite numbers, so it survives being
written and read once more.

The objective of a solution need not be finite.  It is written as a number or as
a word, and an infinity or an undefined value is read from its word in one form,
`Extended.canonical`, which stands for the same floating-point value.

A `Codec` says both things of one kind of value.  Codecs of records are put
together from those of their parts, and texts add nothing to them, because every
JSON value is read back from its text.

* `Codec.reread`: what a codec says about texts.
* `Solution.ofJsonText?_jsonText`: solutions.
* `ofJsonText?_jsonText_of_problem_of_pivot`: problems and pivots.
-/

namespace LinearProgram

open Json (AllPreserved)

/-! ## Codecs -/

/-- How values of a kind are written and read.  A sound value is read in its canonical form if its
numbers are preserved, and what is read is sound and in this form. -/
structure Json.Codec {α : Type} (encode : α → Json) (decode? : Json → Option α)
    (preserved sound : α → Prop) (canonical : α → α) : Prop where
  decode?_encode {x : α} : preserved x → sound x → decode? (encode x) = some (canonical x)
  sound_of_decode? {v : Json} {x : α} : decode? v = some x → sound x ∧ canonical x = x

/-- What is written with a codec is read from its text, and what was read once is read again. -/
theorem Json.Codec.reread {α : Type} {encode : α → Json} {decode? : Json → Option α}
    {preserved sound : α → Prop} {canonical : α → α}
    (codec : Codec encode decode? preserved sound canonical) {x : α} (kept : preserved x) :
    (sound x → (parse? (encode x).compactText).bind decode? = some (canonical x)) ∧
    ∀ text, (parse? text).bind decode? = some x →
      (parse? (encode x).compactText).bind decode? = some x := by
  rw [parse?_compactText, Option.bind_some]
  refine ⟨codec.decode?_encode kept, fun text read => ?_⟩
  obtain ⟨v, _, read⟩ := Option.bind_eq_some_iff.mp read
  obtain ⟨sound, canonical⟩ := codec.sound_of_decode? read
  rw [codec.decode?_encode kept sound, canonical]

/-! ## Objectives of solutions -/

namespace Extended

/-- The form in which an objective is read. -/
def canonical (x : Extended Float) : Extended Float :=
  match Binary.ofFloat x.toFloat with
  | .undefined => .finite (0.0 / 0.0)
  | .infinite true => .negInfinity
  | .infinite false => .posInfinity
  | .finite .. => .finite x.toFloat

theorem toFloat_canonical (x : Extended Float) : x.canonical.toFloat = x.toFloat := by
  unfold canonical
  split
  · next none => exact (Binary.eq_of_ofFloat_undefined none).symm
  · next infinity => exact (Binary.eq_of_ofFloat_infinite infinity).symm
  · next infinity => exact (Binary.eq_of_ofFloat_infinite infinity).symm
  · rfl

theorem ofJson?_toJson {x : Extended Float} (preserved : AllPreserved [x.toFloat]) :
    Extended.ofJson? x.toJson = some x.canonical := by
  unfold toJson canonical
  cases kind : Binary.ofFloat x.toFloat with
  | undefined => rfl
  | infinite negative => cases negative <;> rfl
  | finite negative mantissa exponent =>
    have finite := Binary.isFinite_iff.mpr ⟨negative, mantissa, exponent, kind⟩
    obtain ⟨n, written, read⟩ := Json.exists_of_preserved (preserved _ List.mem_cons_self finite)
    change Extended.ofJson? (Json.ofFloat x.toFloat) = some (.finite x.toFloat)
    rw [written]
    exact congrArg (Option.map Extended.finite) read

/-- Words are read in the canonical form, and so are numbers, because they are finite. -/
theorem canonical_of_ofJson? {v : Json} {x : Extended Float} (read : Extended.ofJson? v = some x) :
    x.canonical = x := by
  unfold ofJson? at read
  split at read
  · next n =>
    obtain ⟨y, number, rfl⟩ := Option.map_eq_some_iff.mp read
    obtain ⟨negative, mantissa, exponent, kind⟩ :=
      Binary.isFinite_iff.mp (Numeral.isFinite_of_toFloat? number)
    have kind : Binary.ofFloat (finite y).toFloat = .finite negative mantissa exponent := kind
    unfold canonical
    rw [kind]
    rfl
  · cases read
    decide +kernel
  · cases read
    decide +kernel
  · cases read
    decide +kernel
  · cases read

end Extended

/-! ## Solutions -/

namespace Solution

/-- The numbers of a solution. -/
def numbers (s : Solution Float) : List Float := s.objective.toFloat :: s.values

/-- A solution whose values are finite and whose number of pivots is a count. -/
structure Sound (s : Solution Float) : Prop where
  values : ∀ v ∈ s.values, v.isFinite = true
  iterations : s.iterations < sizeLimit

/-- Two solutions that agree in all they say.  Their objectives stand for one floating-point value,
of which there is one undefined one and there are two zeros. -/
structure Same (s s' : Solution Float) : Prop where
  status : s.status = s'.status
  values : s.values = s'.values
  objective : s.objective.toFloat = s'.objective.toFloat
  iterations : s.iterations = s'.iterations

theorem codec : Json.Codec Solution.toJson Solution.ofJson? (fun s => AllPreserved s.numbers) Sound
    fun s => { s with objective := s.objective.canonical } where
  decode?_encode {s} preserved sound := by
    have record : s.toJson.record? ["status", "values", "objective_value", "iterations"] =
        some [some (.ofText s.status.word), some (.ofFloats s.values), some s.objective.toJson,
          some (.ofNat s.iterations)] := Json.record?_ofFields _ (by simp)
    have values := Json.list?_ofFloats (preserved.of_subset (List.subset_cons_self _ _))
      sound.values
    have objective := Extended.ofJson?_toJson (x := s.objective)
      (preserved.of_subset (by simp [numbers]))
    unfold ofJson?
    rw [record]
    simp [Json.required?, Json.word?_status, values, objective, Json.size?_ofNat sound.iterations]
  sound_of_decode? {v s} read := by
    unfold ofJson? at read
    obtain ⟨fields, _, read⟩ := Option.bind_eq_some_iff.mp read
    split at read
    · obtain ⟨status, _, read⟩ := Option.bind_eq_some_iff.mp read
      obtain ⟨values, list, read⟩ := Option.bind_eq_some_iff.mp read
      obtain ⟨objective, word, read⟩ := Option.bind_eq_some_iff.mp read
      obtain ⟨iterations, count, read⟩ := Option.bind_eq_some_iff.mp read
      obtain ⟨_, list⟩ := Json.exists_of_required? list
      obtain ⟨_, word⟩ := Json.exists_of_required? word
      obtain ⟨_, count⟩ := Json.exists_of_required? count
      cases read
      refine ⟨⟨Json.isFinite_of_list? list, Json.lt_of_size? count⟩, ?_⟩
      dsimp only
      rw [Extended.canonical_of_ofJson? word]
    · cases read

/-- A solution whose finite numbers are preserved and whose values are finite is read back from its
text as it was, with any objective.  A solution that was read from some text is read from its own
text in the very same form. -/
theorem ofJsonText?_jsonText (s : Solution Float) (preserved : AllPreserved s.numbers) :
    (s.Sound → ∃ s', Solution.ofJsonText? s.jsonText = some s' ∧ s'.Same s) ∧
    ∀ text, Solution.ofJsonText? text = some s → Solution.ofJsonText? s.jsonText = some s := by
  obtain ⟨read, again⟩ := codec.reread preserved
  refine ⟨fun sound => ⟨_, read sound, ?_⟩, again⟩
  exact ⟨rfl, rfl, s.objective.toFloat_canonical, rfl⟩

/-- A negative zero, the least positive value, no objective, and the largest count. -/
def extreme : Solution Float :=
  ⟨.infeasible, [0.5, -0.0, 5e-324], .finite (0.0 / 0.0), 18446744073709551615⟩

/-- A text of this solution that the writer would not choose. -/
def extremeText : String := "[\"infeasible\", [5e-1, -0, 5e-324], \"nan\", 18446744073709551615]"

theorem ofJsonText?_jsonText_extreme :
    (∃ s', Solution.ofJsonText? extreme.jsonText = some s' ∧ s'.Same extreme) ∧
    Solution.ofJsonText? extremeText = some extreme ∧
    Solution.ofJsonText? extreme.jsonText = some extreme := by
  have preserved : AllPreserved extreme.numbers := by
    unfold AllPreserved
    decide +kernel
  have read : Solution.ofJsonText? extremeText = some extreme := by decide +kernel
  obtain ⟨written, again⟩ := ofJsonText?_jsonText extreme preserved
  exact ⟨written ⟨by decide +kernel, by decide +kernel⟩, read, again _ read⟩

end Solution

/-! ## Problems -/

theorem Objective.codec : Json.Codec Objective.toJson Objective.ofJson?
    (fun o => AllPreserved o.coefficients) (fun o => ∀ x ∈ o.coefficients, x.isFinite = true)
    id where
  decode?_encode {o} preserved finite := by
    have record : o.toJson.record? ["coefficients", "sense"] =
        some [some (.ofFloats o.coefficients), some o.sense.toJson] :=
      Json.record?_ofFields _ (by simp)
    have coefficients := Json.list?_ofFloats preserved finite
    unfold ofJson?
    rw [record]
    simp [Json.required?, coefficients, Json.ofJson?_sense]
  sound_of_decode? {v o} read := by
    unfold ofJson? at read
    obtain ⟨fields, _, read⟩ := Option.bind_eq_some_iff.mp read
    split at read
    · obtain ⟨coefficients, list, read⟩ := Option.bind_eq_some_iff.mp read
      obtain ⟨sense, _, read⟩ := Option.bind_eq_some_iff.mp read
      obtain ⟨_, list⟩ := Json.exists_of_required? list
      cases read
      exact ⟨Json.isFinite_of_list? list, rfl⟩
    · cases read

/-- The numbers of a constraint. -/
def Constraint.numbers (c : Constraint Float) : List Float := c.rhs :: c.coefficients

theorem Constraint.codec : Json.Codec Constraint.toJson Constraint.ofJson?
    (fun c => AllPreserved c.numbers) (fun c => ∀ x ∈ c.numbers, x.isFinite = true) id where
  decode?_encode {c} preserved finite := by
    have record : c.toJson.record? ["name", "coefficients", "op", "rhs"] =
        some [some (.ofText c.name), some (.ofFloats c.coefficients), some c.relation.toJson,
          some (.ofFloat c.rhs)] := Json.record?_ofFields _ (by simp)
    have coefficients := Json.list?_ofFloats (preserved.of_subset (List.subset_cons_self _ _))
      fun x mem => finite x (List.mem_cons_of_mem _ mem)
    have rhs : Json.float? (.ofFloat c.rhs) = some c.rhs :=
      preserved _ List.mem_cons_self (finite _ List.mem_cons_self)
    unfold ofJson?
    rw [record]
    simp [Json.required?, Json.text?_ofText, coefficients, Json.ofJson?_relation, rhs]
  sound_of_decode? {v c} read := by
    unfold ofJson? at read
    obtain ⟨fields, _, read⟩ := Option.bind_eq_some_iff.mp read
    split at read
    · obtain ⟨name, _, read⟩ := Option.bind_eq_some_iff.mp read
      obtain ⟨coefficients, list, read⟩ := Option.bind_eq_some_iff.mp read
      obtain ⟨relation, _, read⟩ := Option.bind_eq_some_iff.mp read
      obtain ⟨rhs, number, read⟩ := Option.bind_eq_some_iff.mp read
      obtain ⟨_, list⟩ := Json.exists_of_required? list
      obtain ⟨_, number⟩ := Json.exists_of_required? number
      cases read
      refine ⟨fun x mem => ?_, rfl⟩
      rcases List.mem_cons.mp mem with rfl | mem
      · exact Json.isFinite_of_float? number
      · exact Json.isFinite_of_list? list x mem
    · cases read

namespace Problem

/-- The numbers of a problem. -/
def numbers (p : Problem Float) : List Float :=
  p.objective.coefficients ++ p.constraints.flatMap Constraint.numbers

theorem numbers_subset {p : Problem Float} {c : Constraint Float} (mem : c ∈ p.constraints) :
    c.numbers ⊆ p.numbers := fun _ number =>
  List.mem_append_right _ (List.mem_flatMap.mpr ⟨c, mem, number⟩)

theorem codec : Json.Codec Problem.toJson Problem.ofJson? (fun p => AllPreserved p.numbers)
    (fun p => ∀ x ∈ p.numbers, x.isFinite = true) id where
  decode?_encode {p} preserved finite := by
    have record : p.toJson.record? ["variables", "objective", "constraints"] =
        some [some (.ofTexts p.names), some p.objective.toJson,
          some (.array (p.constraints.map Constraint.toJson))] := Json.record?_ofFields _ (by simp)
    have objective := Objective.codec.decode?_encode (x := p.objective)
      (preserved.of_subset (List.subset_append_left _ _))
      fun x mem => finite x (List.mem_append_left _ mem)
    have constraints : Json.list? Constraint.ofJson?
        (.array (p.constraints.map Constraint.toJson)) = some p.constraints :=
      Json.list?_map fun c mem => Constraint.codec.decode?_encode
        (preserved.of_subset (numbers_subset mem)) fun x number =>
          finite x (numbers_subset mem number)
    unfold ofJson?
    rw [record]
    simp [Json.required?, Json.list?_ofTexts, objective, constraints]
  sound_of_decode? {v p} read := by
    unfold ofJson? at read
    obtain ⟨fields, _, read⟩ := Option.bind_eq_some_iff.mp read
    split at read
    · obtain ⟨names, _, read⟩ := Option.bind_eq_some_iff.mp read
      obtain ⟨objective, record, read⟩ := Option.bind_eq_some_iff.mp read
      obtain ⟨constraints, list, read⟩ := Option.bind_eq_some_iff.mp read
      obtain ⟨_, record⟩ := Json.exists_of_required? record
      obtain ⟨_, list⟩ := Json.exists_of_required? list
      cases read
      refine ⟨fun x mem => ?_, rfl⟩
      rcases List.mem_append.mp mem with mem | mem
      · exact (Objective.codec.sound_of_decode? record).1 x mem
      · obtain ⟨c, among, number⟩ := List.mem_flatMap.mp mem
        obtain ⟨_, read⟩ := Json.exists_of_list? list c among
        exact (Constraint.codec.sound_of_decode? read).1 x number
    · cases read

end Problem

/-! ## Pivots -/

namespace Pivot

/-- A pivot with a finite element whose numbers are counts. -/
structure Sound (p : Pivot Float) : Prop where
  element : p.element.isFinite = true
  iteration : p.iteration < sizeLimit
  row : p.row < sizeLimit
  column : p.column < sizeLimit

theorem codec : Json.Codec Pivot.toJson Pivot.ofJson? (fun p => AllPreserved [p.element]) Sound
    id where
  decode?_encode {p} preserved sound := by
    have record : p.toJson.record?
        ["iteration", "row", "column", "element", "entering", "leaving"] =
        some [some (.ofNat p.iteration), some (.ofNat p.row), some (.ofNat p.column),
          some (.ofFloat p.element), some (.ofText p.entering), some (.ofText p.leaving)] :=
      Json.record?_ofFields _ (by simp)
    have element : Json.float? (.ofFloat p.element) = some p.element :=
      preserved _ List.mem_cons_self sound.element
    unfold ofJson?
    rw [record]
    simp [Json.required?, Json.size?_ofNat sound.iteration, Json.size?_ofNat sound.row,
      Json.size?_ofNat sound.column, element, Json.text?_ofText]
  sound_of_decode? {v p} read := by
    unfold ofJson? at read
    obtain ⟨fields, _, read⟩ := Option.bind_eq_some_iff.mp read
    split at read
    · obtain ⟨iteration, count, read⟩ := Option.bind_eq_some_iff.mp read
      obtain ⟨row, count', read⟩ := Option.bind_eq_some_iff.mp read
      obtain ⟨column, count'', read⟩ := Option.bind_eq_some_iff.mp read
      obtain ⟨element, number, read⟩ := Option.bind_eq_some_iff.mp read
      obtain ⟨entering, _, read⟩ := Option.bind_eq_some_iff.mp read
      obtain ⟨leaving, _, read⟩ := Option.bind_eq_some_iff.mp read
      obtain ⟨_, count⟩ := Json.exists_of_required? count
      obtain ⟨_, count'⟩ := Json.exists_of_required? count'
      obtain ⟨_, count''⟩ := Json.exists_of_required? count''
      obtain ⟨_, number⟩ := Json.exists_of_required? number
      cases read
      exact ⟨⟨Json.isFinite_of_float? number, Json.lt_of_size? count, Json.lt_of_size? count',
        Json.lt_of_size? count''⟩, rfl⟩
    · cases read

end Pivot

/-- A problem and a pivot whose numbers are finite and preserved are read back from their texts as
they were, and those that were read from some text are read from their own texts again. -/
theorem ofJsonText?_jsonText_of_problem_of_pivot (p : Problem Float) (q : Pivot Float)
    (preserved : AllPreserved p.numbers) (preserved' : AllPreserved [q.element]) :
    (((∀ x ∈ p.numbers, x.isFinite = true) → Problem.ofJsonText? p.jsonText = some p) ∧
      ∀ text, Problem.ofJsonText? text = some p → Problem.ofJsonText? p.jsonText = some p) ∧
    ((q.Sound → Pivot.ofJsonText? q.jsonText = some q) ∧
      ∀ text, Pivot.ofJsonText? text = some q → Pivot.ofJsonText? q.jsonText = some q) :=
  ⟨Problem.codec.reread preserved, Pivot.codec.reread preserved'⟩

/-- Names with a quote, a backslash, control characters and characters that are no ASCII. -/
def quotedProblem : Problem Float :=
  { names := ["x\"1", "\\\n\x01"]
    objective := ⟨[1.5, -0.0], .minimize⟩
    constraints := [⟨"é😀", [0.1, 1e300], .ge, 5e-324⟩, ⟨"", [], .eq, 0.25⟩] }

/-- A pivot between quoted names. -/
def quotedPivot : Pivot Float := ⟨18446744073709551615, 0, 1, -0.5, "\\\n\x01", "s\"1"⟩

/-- A text of this pivot that the writer would not choose. -/
def quotedPivotText : String :=
  "[18446744073709551615, 0, 1, -5e-1, \"\\\\\\n\\u0001\", \"s\\u00221\"]"

theorem ofJsonText?_jsonText_of_quoted :
    Problem.ofJsonText? quotedProblem.jsonText = some quotedProblem ∧
    Pivot.ofJsonText? quotedPivotText = some quotedPivot ∧
    Pivot.ofJsonText? quotedPivot.jsonText = some quotedPivot := by
  have preserved : AllPreserved quotedProblem.numbers := by
    unfold AllPreserved
    decide +kernel
  have preserved' : AllPreserved [quotedPivot.element] := by
    unfold AllPreserved
    decide +kernel
  have read : Pivot.ofJsonText? quotedPivotText = some quotedPivot := by decide +kernel
  obtain ⟨⟨written, _⟩, _, again⟩ :=
    ofJsonText?_jsonText_of_problem_of_pivot quotedProblem quotedPivot preserved preserved'
  exact ⟨written (by decide +kernel), read, again _ read⟩

end LinearProgram

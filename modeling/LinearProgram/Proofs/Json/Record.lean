import LinearProgram.Json.Problem
import LinearProgram.Proofs.Json.Number

/-!
# Records and their parts are read back

A record is written as an object with its fields in order.  It is read field by
field, and a field is found because the names of a record are distinct.  The
parts of the records are lists, texts, words, counts and numbers.

Not every finite value is preserved by a numeral: its shortest decimal is exact,
but reading a numeral rounds twice and may end at a neighbour.  So what is said
about numbers here is said about the ones that are `Preserved`.

* `record?_ofFields`: the fields of a record are found again.
* `list?_map`: a list is read back if its items are.
* `not_forall_preserved`: some finite value is not preserved.
-/

namespace LinearProgram.Json

/-- Reading things one by one that have been written one by one. -/
theorem mapM_map {α β γ : Type} {write : α → β} {read : β → Option γ} {value : α → γ} {xs : List α}
    (found : ∀ x ∈ xs, read (write x) = some (value x)) :
    (xs.map write).mapM read = some (xs.map value) := by
  induction xs with
  | nil => rfl
  | cons x xs ih =>
    rw [List.map_cons, List.mapM_cons, found x List.mem_cons_self,
      ih fun y mem => found y (List.mem_cons_of_mem x mem)]
    rfl

/-! ## Fields -/

/-- A key with its value, as an object holds them. -/
def entry (f : String × Json) : Option String × Json := (some f.1, f.2)

theorem field?_of_mem {fields : List (String × Json)} (distinct : (fields.map (·.1)).Nodup)
    {f : String × Json} (mem : f ∈ fields) :
    field? (fields.map entry) f.1 = some (some f.2) := by
  have found : (fields.map entry).filter (fun g => g.1 == some f.1) = [entry f] := by
    induction fields with
    | nil => exact absurd mem List.not_mem_nil
    | cons g fields ih =>
      obtain ⟨other, rest⟩ := List.nodup_cons.mp distinct
      rcases List.mem_cons.mp mem with rfl | mem
      · have none : (fields.map entry).filter (fun g => g.1 == some f.1) = [] := by
          rw [List.filter_eq_nil_iff]
          intro e among same
          obtain ⟨g, inside, rfl⟩ := List.mem_map.mp among
          exact other (List.mem_map.mpr ⟨g, inside, Option.some.inj (eq_of_beq same)⟩)
        rw [List.map_cons, List.filter_cons_of_pos (by exact beq_self_eq_true _), none]
      · have differs : ¬ ((entry g).1 == some f.1) = true := fun same =>
          other (List.mem_map.mpr ⟨f, mem, (Option.some.inj (eq_of_beq same)).symm⟩)
        rw [List.map_cons, List.filter_cons_of_neg (by exact differs)]
        exact ih rest mem
  unfold field?
  rw [found]
  rfl

/-- The fields of a record are found again, in their order. -/
theorem record?_ofFields (fields : List (String × Json)) (distinct : (fields.map (·.1)).Nodup) :
    (ofFields fields).record? (fields.map (·.1)) = some (fields.map fun f => some f.2) := by
  have named : (fields.map entry).any (·.1.isNone) = false := by
    simp [entry]
  change (if (fields.map entry).any (·.1.isNone) then none
    else (fields.map (·.1)).mapM (field? (fields.map entry))) = _
  rw [named]
  exact mapM_map fun _ mem => field?_of_mem distinct mem

theorem exists_of_required? {α : Type} {value? : Json → Option α} {field : Option Json} {x : α}
    (read : required? value? field = some x) : ∃ v, value? v = some x := by
  obtain ⟨v, _, read⟩ := Option.bind_eq_some_iff.mp read
  exact ⟨v, read⟩

/-! ## Lists -/

section Lists

variable {α : Type} {item? : Json → Option α}

theorem list?_map {encode : α → Json} {xs : List α}
    (read : ∀ x ∈ xs, item? (encode x) = some x) :
    list? item? (array (xs.map encode)) = some xs := by
  have items : (xs.map encode).mapM item? = some (xs.map id) := mapM_map read
  rw [List.map_id] at items
  exact items

theorem exists_of_mapM {items : List Json} {xs : List α} (read : items.mapM item? = some xs) :
    ∀ x ∈ xs, ∃ v, item? v = some x := by
  induction items generalizing xs with
  | nil =>
    cases read
    exact fun x mem => absurd mem List.not_mem_nil
  | cons v items ih =>
    rw [List.mapM_cons] at read
    obtain ⟨y, first, read⟩ := Option.bind_eq_some_iff.mp read
    obtain ⟨ys, rest, read⟩ := Option.bind_eq_some_iff.mp read
    cases read
    intro x mem
    rcases List.mem_cons.mp mem with rfl | mem
    · exact ⟨v, first⟩
    · exact ih rest x mem

/-- The items of a list that is read are read. -/
theorem exists_of_list? {v : Json} {xs : List α} (read : list? item? v = some xs) :
    ∀ x ∈ xs, ∃ v, item? v = some x := by
  cases v with
  | array items => exact exists_of_mapM read
  | null | bool _ | number _ | string _ | object _ => cases read

end Lists

/-! ## Texts and words -/

theorem text?_ofText (s : String) : text? (ofText s) = some s := rfl

theorem list?_ofTexts (texts : List String) : list? text? (ofTexts texts) = some texts :=
  list?_map fun s _ => text?_ofText s

theorem ofJson?_sense (s : Sense) : Sense.ofJson? s.toJson = some s := by
  cases s <;> decide +kernel

theorem ofJson?_relation (r : Relation) : Relation.ofJson? r.toJson = some r := by
  cases r <;> decide +kernel

theorem word?_status (s : Status) : word? Status.ofWord? (ofText s.word) = some s := by
  cases s <;> decide +kernel

/-! ## Counts -/

theorem size?_ofNat {n : Nat} (small : n < sizeLimit) : size? (ofNat n) = some n := by
  simp [size?, ofNat, Numeral.toSize?, Numeral.ofNat, small]

theorem lt_of_size? {v : Json} {n : Nat} (read : size? v = some n) : n < sizeLimit := by
  cases v with
  | number m =>
    change m.toSize? = some n at read
    unfold Numeral.toSize? at read
    split at read
    · next valid =>
      cases read
      simp only [Bool.and_eq_true, decide_eq_true_eq] at valid
      exact valid.2
    · cases read
  | null | bool _ | string _ | array _ | object _ => cases read

/-! ## Numbers -/

/-- A value that is written so that it is read back. -/
def Preserved (x : Float) : Prop := float? (ofFloat x) = some x

instance (x : Float) : Decidable (Preserved x) := inferInstanceAs (Decidable (_ = _))

/-- The shortest decimal of some finite value is read as a neighbour. -/
theorem not_forall_preserved : ¬ ∀ x : Float, x.isFinite = true → Preserved x := by
  intro all
  exact absurd (all 123456789.12345679 (by decide +kernel)) (by decide +kernel)

theorem exists_of_preserved {x : Float} (preserved : Preserved x) :
    ∃ n, ofFloat x = number n ∧ n.toFloat? = some x := by
  unfold Preserved at preserved
  cases written : ofFloat x with
  | number n =>
    rw [written] at preserved
    exact ⟨n, rfl, preserved⟩
  | null | bool _ | string _ | array _ | object _ =>
    rw [written] at preserved
    cases preserved

theorem isFinite_of_float? {v : Json} {x : Float} (read : float? v = some x) :
    x.isFinite = true := by
  cases v with
  | number n => exact Numeral.isFinite_of_toFloat? read
  | null | bool _ | string _ | array _ | object _ => cases read

/-- The finite ones among some values are preserved. -/
def AllPreserved (xs : List Float) : Prop := ∀ x ∈ xs, x.isFinite = true → Preserved x

theorem AllPreserved.of_subset {xs ys : List Float} (preserved : AllPreserved xs) (sub : ys ⊆ xs) :
    AllPreserved ys := fun x mem => preserved x (sub mem)

theorem list?_ofFloats {xs : List Float} (preserved : AllPreserved xs)
    (finite : ∀ x ∈ xs, x.isFinite = true) : list? float? (ofFloats xs) = some xs :=
  list?_map fun x mem => preserved x mem (finite x mem)

theorem isFinite_of_list? {v : Json} {xs : List Float} (read : list? float? v = some xs) :
    ∀ x ∈ xs, x.isFinite = true := by
  intro x mem
  obtain ⟨_, number⟩ := exists_of_list? read x mem
  exact isFinite_of_float? number

end LinearProgram.Json

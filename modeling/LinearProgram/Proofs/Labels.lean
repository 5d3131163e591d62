import LinearProgram.Proofs.Shape

/-!
# Labels are distinct

A tableau labels its own columns with `s` or `a` and a number, and with two fixed
labels.  Validation refuses every variable name of that shape, so the labels of
an accepted problem are distinct and a column can be found again by its label.
-/

namespace LinearProgram

/-! ## Generated labels -/

/-- The characters of a letter followed by a number. -/
theorem toList_append_toString (letter : String) (n : Nat) :
    (letter ++ toString n).toList = letter.toList ++ Nat.toDigits 10 n := by
  rw [String.toList_append, Nat.toString_eq_ofList_toDigits, String.toList_ofList]

theorem toDigits_ten_injective : Function.Injective (Nat.toDigits 10) := by
  intro j k same
  calc j = Nat.ofDigitChars 10 (Nat.toDigits 10 j) 0 := Nat.ofDigitChars_ten_toDigits.symm
    _ = Nat.ofDigitChars 10 (Nat.toDigits 10 k) 0 := by rw [same]
    _ = k := Nat.ofDigitChars_ten_toDigits

theorem isReservedName_of_toList {name : String} {c : Char} {n : Nat}
    (shape : name.toList = c :: Nat.toDigits 10 n) (letter : c = 's' ∨ c = 'a') :
    isReservedName name = true := by
  have digits : (Nat.toDigits 10 n).all Char.isDigit = true := by
    rw [List.all_eq_true]
    exact fun d mem => Nat.isDigit_of_mem_toDigits (by omega) (by omega) mem
  have nonempty : (Nat.toDigits 10 n).isEmpty = false := by
    simp [Nat.toDigits_ne_nil]
  unfold isReservedName
  rw [shape]
  rcases letter with rfl | rfl <;> simp [digits, nonempty]

namespace Layout

theorem toList_slackLabel (k : Nat) :
    (slackLabel k).toList = 's' :: Nat.toDigits 10 (k + 1) :=
  toList_append_toString "s" (k + 1)

theorem toList_artificialLabel (k : Nat) :
    (artificialLabel k).toList = 'a' :: Nat.toDigits 10 (k + 1) :=
  toList_append_toString "a" (k + 1)

theorem isReservedName_slackLabel (k : Nat) : isReservedName (slackLabel k) = true :=
  isReservedName_of_toList (toList_slackLabel k) (Or.inl rfl)

theorem isReservedName_artificialLabel (k : Nat) : isReservedName (artificialLabel k) = true :=
  isReservedName_of_toList (toList_artificialLabel k) (Or.inr rfl)

theorem slackLabel_injective : Function.Injective slackLabel := by
  intro j k same
  have digits := congrArg String.toList same
  rw [toList_slackLabel, toList_slackLabel, List.cons_inj_right] at digits
  exact Nat.succ.inj (toDigits_ten_injective digits)

theorem artificialLabel_injective : Function.Injective artificialLabel := by
  intro j k same
  have digits := congrArg String.toList same
  rw [toList_artificialLabel, toList_artificialLabel, List.cons_inj_right] at digits
  exact Nat.succ.inj (toDigits_ten_injective digits)

/-- The labels that a tableau gives to its own columns, of which each group starts with a letter of
its own. -/
def generated (l : Layout) : List String :=
  (List.range l.slacks).map slackLabel ++ (List.range l.artificials).map artificialLabel ++
    [objectiveLabel, rhsLabel]

theorem labels_eq (l : Layout) : l.labels = l.names ++ l.generated := by
  simp [labels, generated]

theorem isReservedName_of_mem_generated {l : Layout} {name : String} (mem : name ∈ l.generated) :
    isReservedName name = true := by
  simp only [generated, List.mem_append, List.mem_map, List.mem_cons, List.not_mem_nil] at mem
  rcases mem with (⟨k, _, rfl⟩ | ⟨k, _, rfl⟩) | rfl | rfl | impossible
  · exact isReservedName_slackLabel k
  · exact isReservedName_artificialLabel k
  · rfl
  · rfl
  · exact absurd impossible id

theorem nodup_generated (l : Layout) : l.generated.Nodup := by
  have slack_first : ∀ x ∈ (List.range l.slacks).map slackLabel, x.toList.head? = some 's' := by
    intro x mem
    obtain ⟨k, _, rfl⟩ := List.mem_map.mp mem
    rw [toList_slackLabel, List.head?_cons]
  have artificial_first : ∀ x ∈ (List.range l.artificials).map artificialLabel,
      x.toList.head? = some 'a' := by
    intro x mem
    obtain ⟨k, _, rfl⟩ := List.mem_map.mp mem
    rw [toList_artificialLabel, List.head?_cons]
  have fixed_first : ∀ x ∈ [objectiveLabel, rhsLabel],
      x.toList.head? ≠ some 's' ∧ x.toList.head? ≠ some 'a' := by
    simp [objectiveLabel, rhsLabel]
  unfold generated
  refine List.nodup_append.mpr ⟨List.nodup_append.mpr ⟨?_, ?_, ?_⟩, by decide, ?_⟩
  · exact List.nodup_range.map slackLabel_injective
  · exact List.nodup_range.map artificialLabel_injective
  · rintro x x_mem _ y_mem rfl
    have letters := (slack_first x x_mem).symm.trans (artificial_first x y_mem)
    exact absurd letters (by decide)
  · rintro x x_mem _ y_mem rfl
    rcases List.mem_append.mp x_mem with slack | artificial
    · exact (fixed_first x y_mem).1 (slack_first x slack)
    · exact (fixed_first x y_mem).2 (artificial_first x artificial)

theorem nodup_labels {l : Layout} (distinct : l.names.Nodup)
    (free : ∀ name ∈ l.names, isReservedName name = false) : l.labels.Nodup := by
  rw [labels_eq]
  refine List.nodup_append.mpr ⟨distinct, l.nodup_generated, ?_⟩
  rintro name mem _ generated rfl
  exact absurd (isReservedName_of_mem_generated generated) (by simp [free name mem])

/-! ## Finding a column by its label -/

section Distinct

variable {l : Layout} (distinct : l.labels.Nodup)

include distinct

theorem columnOf_of_getElem? {c : Nat} {name : String} (at_c : l.labels[c]? = some name) :
    l.columnOf name = some c := by
  obtain ⟨c_lt, rfl⟩ := List.getElem?_eq_some_iff.mp at_c
  refine List.findIdx?_eq_some_iff_getElem.mpr ⟨c_lt, beq_self_eq_true _, fun k before => ?_⟩
  have other : l.labels[k] ≠ l.labels[c] := fun same =>
    before.ne ((List.Nodup.getElem_inj_iff distinct).mp same)
  simpa using other

theorem columnOf_label {c : Nat} (inside : c < l.width) : l.columnOf (l.label c) = some c :=
  columnOf_of_getElem? distinct (getElem?_labels inside)

omit distinct in
theorem getElem?_labels_objectiveColumn (l : Layout) :
    l.labels[l.objectiveColumn]? = some objectiveLabel := by
  have count : l.objectiveColumn = (l.names ++ (List.range l.slacks).map slackLabel ++
      (List.range l.artificials).map artificialLabel).length := by
    simp [objectiveColumn, width, realCount, decisionCount, Nat.add_assoc]
  rw [labels, count, List.getElem?_append_right le_rfl, Nat.sub_self]
  rfl

theorem columnOf_objectiveLabel : l.columnOf objectiveLabel = some l.objectiveColumn :=
  columnOf_of_getElem? distinct l.getElem?_labels_objectiveColumn

theorem label_injOn {c d : Nat} (c_lt : c < l.width) (d_lt : d < l.width)
    (same : l.label c = l.label d) : c = d := by
  have found := columnOf_label distinct c_lt
  rw [same, columnOf_label distinct d_lt] at found
  exact (Option.some.inj found).symm

theorem label_ne_objectiveLabel {c : Nat} (inside : c < l.width) : l.label c ≠ objectiveLabel := by
  intro same
  have found := columnOf_label distinct inside
  rw [same, columnOf_objectiveLabel distinct] at found
  exact inside.ne' (Option.some.inj found)

end Distinct

end Layout

/-! ## Accepted names -/

namespace Problem

variable {α : Type}

theorem checkNames_eq_ok_iff (earlier names : List String) :
    (checkNames earlier names : Except (Fault α) Unit) = .ok () ↔
      (∀ name ∈ names, isReservedName name = false ∧ name ∉ earlier) ∧ names.Nodup := by
  induction names generalizing earlier with
  | nil => simp [checkNames]
  | cons name rest ih =>
    rw [checkNames]
    split
    · next reserved => simp [reserved]
    · next free =>
      split
      · next used => simp [used]
      · next unused =>
        rw [ih, List.forall_mem_cons, List.nodup_cons]
        constructor
        · rintro ⟨later, distinct⟩
          refine ⟨⟨⟨eq_false_of_ne_true free, unused⟩, fun n mem => ?_⟩, fun mem => ?_, distinct⟩
          · exact ⟨(later n mem).1, fun used => (later n mem).2 (List.mem_cons_of_mem name used)⟩
          · exact (later name mem).2 List.mem_cons_self
        · rintro ⟨⟨_, later⟩, fresh, distinct⟩
          refine ⟨fun n mem => ⟨(later n mem).1, fun used => ?_⟩, distinct⟩
          rcases List.mem_cons.mp used with rfl | before
          · exact fresh mem
          · exact (later n mem).2 before

variable [Scalar α]

/-- The labels of an accepted problem's tableau are distinct. -/
theorem nodup_labels_of_validate {p : Problem α} {twoPhase : Bool}
    (valid : p.validate twoPhase = .ok ()) : p.layout.labels.Nodup := by
  obtain ⟨_, _, names, _⟩ := (validate_eq_ok_iff p twoPhase).mp valid
  obtain ⟨free, distinct⟩ := (checkNames_eq_ok_iff [] p.names).mp names
  exact Layout.nodup_labels distinct fun name mem => (free name mem).1

end Problem

end LinearProgram

import LinearProgram.Proofs.Choice
import LinearProgram.Proofs.Sheet.Operations

/-!
# What the two rules choose on a sheet

On a sheet the rules walk through positions: one along the objective row, the
other down a column of the matrix, where rows without a positive entry are passed
by.  A sheet is regular if its rows are as long as its labels say.  Then no access
fails, the walks are the scans of `Proofs/Choice`, and they choose what the rules
choose on a tableau.  The column may be any column of the matrix, also the one of
marks or the one of right-hand sides, which are no variable columns.

* `Sheet.enteringColumn?_eq`, `Sheet.leavingRow?_eq`: the walks as scans.
* `rules_choose_least`: both rules, on all tableaux and on all regular sheets.
-/

namespace LinearProgram

namespace Sheet

variable {α : Type}

/-- There is an objective row, every row has one entry for each label, and there are labels for the
variable columns, the marks and the right-hand sides. -/
structure Regular (s : Sheet α) : Prop where
  objective : s.data ≠ []
  widths : ∀ cells ∈ s.data, cells.length = s.labels.length
  columns : s.labels.length = s.markColumn + 2

/-- Number of constraint rows; also the position of the objective row. -/
def constraintCount (s : Sheet α) : Nat := s.data.length - 1

/-- The column of right-hand sides. -/
def rhsColumn (s : Sheet α) : Nat := s.markColumn + 1

/-- The columns that may enter, counted from the left. -/
def enteringCount (s : Sheet α) (withArtificials : Bool) : Nat :=
  if withArtificials then s.markColumn else s.realCount

/-- Entry of the matrix; zero where there is none. -/
def entry [Scalar α] (s : Sheet α) (row column : Nat) : α := (s.get? row column).getD 0

namespace Regular

variable {s : Sheet α} (regular : s.Regular)

include regular

theorem length_data : s.data.length = s.constraintCount + 1 :=
  (Nat.succ_pred_eq_of_pos (List.length_pos_iff.mpr regular.objective)).symm

theorem objectiveRow?_eq : s.objectiveRow? = some s.constraintCount := by
  rw [objectiveRow?, regular.length_data]
  rfl

theorem rhsColumn?_eq : s.rhsColumn? = some s.rhsColumn := by
  rw [Sheet.rhsColumn?, regular.columns]
  rfl

theorem rhsColumn_lt : s.rhsColumn < s.labels.length := by
  rw [regular.columns]
  exact Nat.lt_succ_self _

theorem enteringCount_le (withArtificials : Bool) :
    s.enteringCount withArtificials ≤ s.labels.length := by
  have real : s.realCount ≤ s.markColumn := Nat.le_add_right _ _
  rw [regular.columns, enteringCount]
  split <;> omega

variable [Scalar α]

theorem get?_eq {i c : Nat} (row : i < s.data.length) (column : c < s.labels.length) :
    s.get? i c = some (s.entry i c) := by
  have width := regular.widths _ (List.getElem_mem row)
  obtain ⟨x, found⟩ : ∃ x, s.get? i c = some x := by
    rw [get?_of_row (List.getElem?_eq_getElem row)]
    exact ⟨_, List.getElem?_eq_getElem (column.trans_eq width.symm)⟩
  rw [entry, found]
  rfl

theorem rhs?_eq {i : Nat} (row : i < s.data.length) :
    s.rhs? i = some (s.entry i s.rhsColumn) := by
  rw [Sheet.rhs?, regular.rhsColumn?_eq]
  exact regular.get?_eq row regular.rhsColumn_lt

end Regular

variable {s : Sheet Rat} (regular : s.Regular)

/-- A walk through positions whose values are known is a scan of these values. -/
theorem scan?_range_eq {bound : Option Rat} {count : Nat} {value : Nat → Option (Option Rat)}
    {candidate : Nat → Option Rat} (values : ∀ i < count, value i = some (candidate i)) :
    scan? bound count value = some (leastIndex bound ((List.range count).map candidate)) := by
  have length : ((List.range count).map candidate).length = count := by
    rw [List.length_map, List.length_range]
  have scan := Tableau.scan?_eq ((List.range count).map candidate) value bound fun i inside => ?_
  · rwa [length] at scan
  · rw [length] at inside
    rw [values i inside, List.getElem?_map, List.getElem?_range inside]
    rfl

include regular

theorem enteringColumn?_eq (withArtificials : Bool) :
    s.enteringColumn? withArtificials = some (leastIndex (some 0)
      ((List.range (s.enteringCount withArtificials)).map
        fun j => some (s.entry s.constraintCount j))) := by
  have last : s.constraintCount < s.data.length := by
    rw [regular.length_data]
    exact Nat.lt_succ_self _
  rw [enteringColumn?, regular.objectiveRow?_eq]
  refine scan?_range_eq fun j inside => ?_
  have column := inside.trans_le (regular.enteringCount_le withArtificials)
  rw [regular.get?_eq last column]
  rfl

theorem leavingRow?_eq {c : Nat} (column : c < s.labels.length) :
    s.leavingRow? c = some (leastIndex none
      ((List.range s.constraintCount).map (ratioAt (s.entry · c) (s.entry · s.rhsColumn)))) := by
  rw [leavingRow?, regular.objectiveRow?_eq]
  refine scan?_range_eq fun i inside => ?_
  have row : i < s.data.length := by
    rw [regular.length_data]
    exact Nat.lt_succ_of_lt inside
  rw [regular.get?_eq row column, regular.rhs?_eq row]
  show (if 0 < s.entry i c then _ else _) = some (ratioAt _ _ i)
  unfold ratioAt
  split <;> rfl

end Sheet

/-- The sheet of a tableau is regular. -/
theorem Tableau.Shaped.regular {α : Type} [Scalar α] {t : Tableau α} (shaped : t.Shaped) :
    t.sheet.Regular where
  objective := List.ne_nil_of_length_pos (by simp)
  widths cells mem := by
    obtain ⟨q, q_mem, rfl⟩ := List.mem_map.mp mem
    exact length_entries_of_mem shaped q_mem
  columns := t.layout.length_labels

/-- Over exact numbers the entering column is the leftmost of the columns in question with the most
negative objective entry, and there is none exactly if no such entry is negative.  The leaving row
is the highest of the rows with the least ratio of right-hand side to positive entry, and there is
none exactly if no entry of the column is positive.  It holds for every tableau, and for every
regular sheet and every column of its matrix. -/
theorem rules_choose_least :
    (∀ t : Tableau Rat,
      (∀ withArtificials,
        (∀ c, t.enteringColumn withArtificials = some c ↔
          MostNegative t.objective.entry (t.enteringCount withArtificials) c) ∧
        (t.enteringColumn withArtificials = none ↔
          ∀ c < t.enteringCount withArtificials, 0 ≤ t.objective.entry c)) ∧
      ∀ c, (∀ i, t.leavingRow c = some i ↔
          LeastRatio (t.entry · c) t.rhs t.constraintCount i) ∧
        (t.leavingRow c = none ↔ ∀ i < t.constraintCount, t.entry i c ≤ 0)) ∧
    ∀ s : Sheet Rat, s.Regular →
      (∀ withArtificials,
        (∀ c, s.enteringColumn? withArtificials = some (some c) ↔
          MostNegative (s.entry s.constraintCount) (s.enteringCount withArtificials) c) ∧
        (s.enteringColumn? withArtificials = some none ↔
          ∀ c < s.enteringCount withArtificials, 0 ≤ s.entry s.constraintCount c)) ∧
      ∀ c < s.labels.length,
        (∀ i, s.leavingRow? c = some (some i) ↔
          LeastRatio (s.entry · c) (s.entry · s.rhsColumn) s.constraintCount i) ∧
        (s.leavingRow? c = some none ↔ ∀ i < s.constraintCount, s.entry i c ≤ 0) := by
  refine ⟨fun t => ⟨fun withArtificials => ?_, fun c => ?_⟩,
    fun s regular => ⟨fun withArtificials => ?_, fun c column => ?_⟩⟩
  · exact ⟨fun c => Tableau.enteringColumn_eq_some_iff, Tableau.enteringColumn_eq_none_iff⟩
  · exact ⟨fun i => Tableau.leavingRow_eq_some_iff_leastRatio,
      Tableau.leavingRow_eq_none_iff_entry⟩
  · rw [Sheet.enteringColumn?_eq regular]
    exact ⟨fun c => Option.some_inj.trans (leastIndex_entries_eq_some_iff _ c _),
      Option.some_inj.trans (leastIndex_entries_eq_none_iff _ _)⟩
  · rw [Sheet.leavingRow?_eq regular column]
    exact ⟨fun i => Option.some_inj.trans (leastIndex_ratios_eq_some_iff _ i _ _),
      Option.some_inj.trans (leastIndex_ratios_eq_none_iff _ _ _)⟩

/-- The second and the third column share the most negative cost.  In the second column the first
row is passed by and the other two tie. -/
def tiedRatios : Problem Rat :=
  { names := ["x1", "x2", "x3"]
    objective := ⟨[3, 5, 5], .maximize⟩
    constraints := [⟨"falling", [0, -1, 1], .le, 1⟩, ⟨"cap", [0, 2, 0], .le, 4⟩,
      ⟨"total", [1, 1, 1], .le, 2⟩] }

/-- The last column is the one of right-hand sides. -/
theorem rules_choose_least_tiedRatios :
    ∃ s : Sheet Rat, s = (Tableau.ofProblem tiedRatios).sheet ∧ s.Regular ∧
      s.labels[7]? = some rhsLabel ∧
      (s.enteringColumn? false = some (some 1) ∧ MostNegative (s.entry 3) 6 1) ∧
      (s.leavingRow? 1 = some (some 1) ∧ LeastRatio (s.entry · 1) (s.entry · 7) 3 1) ∧
      s.leavingRow? 7 = some (some 0) ∧ LeastRatio (s.entry · 7) (s.entry · 7) 3 0 := by
  have valid : tiedRatios.validate false = .ok () := rfl
  have regular := (Tableau.shaped_ofProblem (Problem.wellSized_of_validate valid)).regular
  obtain ⟨entering, leaving⟩ := rules_choose_least.2 _ regular
  have enters : (Tableau.ofProblem tiedRatios).sheet.enteringColumn? false = some (some 1) := by
    decide +kernel
  have leaves : (Tableau.ofProblem tiedRatios).sheet.leavingRow? 1 = some (some 1) := by
    decide +kernel
  have last : (Tableau.ofProblem tiedRatios).sheet.leavingRow? 7 = some (some 0) := by
    decide +kernel
  refine ⟨_, rfl, regular, rfl, ⟨enters, ?_⟩, ⟨leaves, ?_⟩, last, ?_⟩
  · exact ((entering false).1 1).mp enters
  · exact ((leaving 1 (by decide +kernel)).1 1).mp leaves
  · exact ((leaving 7 (by decide +kernel)).1 0).mp last

end LinearProgram

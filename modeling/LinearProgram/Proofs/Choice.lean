import LinearProgram.Proofs.Equation

/-!
# What the two rules choose

Both rules are one scan for the least candidate below a bound.  `LeastAt` says
what a least candidate is without the scan, and `leastIndex_eq_some_iff` says
that the scan finds it.  Where the candidates are entries, or ratios of the
positions with a positive entry, this is `MostNegative` and `LeastRatio`.  Read
off for the two rules: the entering column is the leftmost of the most negative
objective entries, and the leaving row is the highest of the rows with the least
ratio.
-/

namespace LinearProgram

/-! ## The scan -/

/-- A value stands at a position, no candidate is smaller, and every earlier one is larger. -/
structure LeastAt (candidates : List (Option Rat)) (i : Nat) (x : Rat) : Prop where
  value_at : candidates[i]? = some (some x)
  minimal : ∀ y, some y ∈ candidates → x ≤ y
  leftmost : ∀ k < i, ∀ y, candidates[k]? = some (some y) → x < y

namespace LeastAt

variable {candidates : List (Option Rat)} {i j : Nat} {x y : Rat}

theorem unique (left : LeastAt candidates i x) (right : LeastAt candidates j y) :
    i = j ∧ x = y := by
  have same : x = y := le_antisymm
    (left.minimal y (List.mem_of_getElem? right.value_at))
    (right.minimal x (List.mem_of_getElem? left.value_at))
  subst y
  refine ⟨?_, rfl⟩
  rcases lt_trichotomy i j with before | rfl | after
  · exact absurd (right.leftmost i before x left.value_at) (lt_irrefl x)
  · rfl
  · exact absurd (left.leftmost j after x right.value_at) (lt_irrefl x)

theorem none_cons (least : LeastAt candidates i x) : LeastAt (none :: candidates) (i + 1) x := by
  refine ⟨least.value_at, fun y mem => ?_, fun k before y at_k => ?_⟩
  · rcases List.mem_cons.mp mem with impossible | mem
    · cases impossible
    · exact least.minimal y mem
  · cases k with
    | zero => cases at_k
    | succ k => exact least.leftmost k (Nat.lt_of_succ_lt_succ before) y at_k

theorem some_cons (least : LeastAt candidates i x) (below : x < y) :
    LeastAt (some y :: candidates) (i + 1) x := by
  refine ⟨least.value_at, fun z mem => ?_, fun k before z at_k => ?_⟩
  · rcases List.mem_cons.mp mem with head | mem
    · cases head
      exact below.le
    · exact least.minimal z mem
  · cases k with
    | zero =>
      cases at_k
      exact below
    | succ k => exact least.leftmost k (Nat.lt_of_succ_lt_succ before) z at_k

theorem head (rest : ∀ y, some y ∈ candidates → x ≤ y) : LeastAt (some x :: candidates) 0 x := by
  refine ⟨rfl, fun y mem => ?_, fun k before => absurd before (Nat.not_lt_zero k)⟩
  rcases List.mem_cons.mp mem with head | mem
  · cases head
    exact le_rfl
  · exact rest y mem

end LeastAt

/-- A value that is not below a bound is at least every value that is. -/
theorem lt_of_isBelow {bound : Option Rat} {x y : Rat} (below : isBelow bound x = true)
    (above : isBelow bound y = false) : x < y := by
  cases bound with
  | none => cases above
  | some b =>
    have left : x < b := of_decide_eq_true below
    have right : ¬ y < b := of_decide_eq_false above
    exact left.trans_le (not_lt.mp right)

/-- The scan either keeps what it was given, because nothing is below the bound, or it ends at the
least candidate. -/
theorem leastIndexFrom_cases (candidates : List (Option Rat)) (position : Nat)
    (bound : Option Rat) (found : Option Nat) :
    (leastIndexFrom position bound found candidates = found ∧
      ∀ y, some y ∈ candidates → isBelow bound y = false) ∨
    ∃ i x, leastIndexFrom position bound found candidates = some (position + i) ∧
      isBelow bound x = true ∧ LeastAt candidates i x := by
  induction candidates generalizing position bound found with
  | nil => exact Or.inl ⟨rfl, fun y mem => absurd mem List.not_mem_nil⟩
  | cons candidate rest ih =>
    cases candidate with
    | none =>
      rw [leastIndexFrom]
      rcases ih (position + 1) bound found with ⟨kept, above⟩ | ⟨i, x, chosen, below, least⟩
      · refine Or.inl ⟨kept, fun y mem => above y ?_⟩
        rcases List.mem_cons.mp mem with impossible | mem
        · cases impossible
        · exact mem
      · exact Or.inr ⟨i + 1, x, by rw [chosen]; congr 1; omega, below, least.none_cons⟩
    | some v =>
      rw [leastIndexFrom]
      cases v_below : isBelow bound v with
      | true =>
        rw [if_pos rfl]
        -- From here on the bound is `v`, so "kept" means that `v` itself is the least.
        rcases ih (position + 1) (some v) (some position) with
          ⟨kept, above⟩ | ⟨i, x, chosen, below, least⟩
        · refine Or.inr ⟨0, v, kept, v_below, LeastAt.head fun y mem => ?_⟩
          exact not_lt.mp (of_decide_eq_false (above y mem))
        · have smaller : x < v := of_decide_eq_true below
          refine Or.inr ⟨i + 1, x, by rw [chosen]; congr 1; omega, ?_, least.some_cons smaller⟩
          cases bound with
          | none => rfl
          | some b => exact decide_eq_true (smaller.trans (of_decide_eq_true v_below))
      | false =>
        rw [if_neg Bool.false_ne_true]
        rcases ih (position + 1) bound found with ⟨kept, above⟩ | ⟨i, x, chosen, below, least⟩
        · refine Or.inl ⟨kept, fun y mem => ?_⟩
          rcases List.mem_cons.mp mem with head | mem
          · cases head
            exact v_below
          · exact above y mem
        · exact Or.inr ⟨i + 1, x, by rw [chosen]; congr 1; omega, below,
            least.some_cons (lt_of_isBelow below v_below)⟩

theorem leastIndex_eq_none_iff (bound : Option Rat) (candidates : List (Option Rat)) :
    leastIndex bound candidates = none ↔ ∀ y, some y ∈ candidates → isBelow bound y = false := by
  unfold leastIndex
  rcases leastIndexFrom_cases candidates 0 bound none with
    ⟨kept, above⟩ | ⟨i, x, chosen, below, least⟩
  · exact ⟨fun _ => above, fun _ => kept⟩
  · rw [chosen]
    refine ⟨fun impossible => (nomatch impossible), fun above => ?_⟩
    have not_below := above x (List.mem_of_getElem? least.value_at)
    cases below.symm.trans not_below

/-- The scan finds a position exactly if a least candidate below the bound stands there. -/
theorem leastIndex_eq_some_iff (bound : Option Rat) (candidates : List (Option Rat)) (i : Nat) :
    leastIndex bound candidates = some i ↔
      ∃ x, isBelow bound x = true ∧ LeastAt candidates i x := by
  unfold leastIndex
  rcases leastIndexFrom_cases candidates 0 bound none with
    ⟨kept, above⟩ | ⟨j, y, chosen, below, least⟩
  · rw [kept]
    refine ⟨fun impossible => (nomatch impossible), fun ⟨x, below, least⟩ => ?_⟩
    have not_below := above x (List.mem_of_getElem? least.value_at)
    cases below.symm.trans not_below
  · rw [chosen, Nat.zero_add, Option.some.injEq]
    constructor
    · rintro rfl
      exact ⟨y, below, least⟩
    · rintro ⟨x, _, other⟩
      exact (least.unique other).1

/-! ## Candidates by position -/

/-- A position has a negative entry, none before the count has a smaller one, and every earlier
entry is larger. -/
structure MostNegative (entry : Nat → Rat) (count c : Nat) : Prop where
  inside : c < count
  negative : entry c < 0
  minimal : ∀ j < count, entry c ≤ entry j
  leftmost : ∀ j < c, entry c < entry j

/-- A position has a positive entry, none with one before the count has a smaller ratio of
right-hand side to entry, and every earlier one has a larger ratio. -/
structure LeastRatio (entry rhs : Nat → Rat) (count i : Nat) : Prop where
  inside : i < count
  positive : 0 < entry i
  minimal : ∀ k < count, 0 < entry k → rhs i / entry i ≤ rhs k / entry k
  highest : ∀ k < i, 0 < entry k → rhs i / entry i < rhs k / entry k

theorem map_eq_map_range {β γ : Type} (xs : List β) {f : β → γ} {g : Nat → γ}
    (agree : ∀ i x, xs[i]? = some x → f x = g i) : xs.map f = (List.range xs.length).map g := by
  refine List.ext_getElem (by simp) fun i left right => ?_
  rw [List.length_map] at left
  rw [List.getElem_map, List.getElem_map, List.getElem_range]
  exact agree i _ (List.getElem?_eq_getElem left)

section Positions

variable {count i : Nat}

theorem getElem?_map_range {value : Nat → Option Rat} {y : Rat} :
    ((List.range count).map value)[i]? = some (some y) ↔ i < count ∧ value i = some y := by
  rw [List.getElem?_map, Option.map_eq_some_iff]
  constructor
  · rintro ⟨k, at_i, here⟩
    obtain ⟨inside, rfl⟩ := List.getElem?_eq_some_iff.mp at_i
    rw [List.getElem_range] at here
    exact ⟨inside.trans_eq List.length_range, here⟩
  · rintro ⟨inside, here⟩
    exact ⟨i, List.getElem?_range inside, here⟩

theorem mem_map_range {value : Nat → Option Rat} {y : Rat} :
    some y ∈ (List.range count).map value ↔ ∃ k < count, value k = some y := by
  rw [List.mem_map]
  exact exists_congr fun k => and_congr_left fun _ => List.mem_range

theorem leastAt_map_range_iff {value : Nat → Option Rat} {x : Rat} :
    LeastAt ((List.range count).map value) i x ↔
      i < count ∧ value i = some x ∧ (∀ k < count, ∀ y, value k = some y → x ≤ y) ∧
      ∀ k < i, ∀ y, value k = some y → x < y := by
  constructor
  · intro least
    obtain ⟨inside, here⟩ := getElem?_map_range.mp least.value_at
    refine ⟨inside, here, fun k k_inside y at_k => ?_, fun k before y at_k => ?_⟩
    · exact least.minimal y (mem_map_range.mpr ⟨k, k_inside, at_k⟩)
    · exact least.leftmost k before y (getElem?_map_range.mpr ⟨before.trans inside, at_k⟩)
  · rintro ⟨inside, here, minimal, leftmost⟩
    refine ⟨getElem?_map_range.mpr ⟨inside, here⟩, fun y mem => ?_, fun k before y at_k => ?_⟩
    · obtain ⟨k, k_inside, at_k⟩ := mem_map_range.mp mem
      exact minimal k k_inside y at_k
    · exact leftmost k before y (getElem?_map_range.mp at_k).2

variable (entry rhs : Nat → Rat) (count i)

theorem leastIndex_entries_eq_some_iff :
    leastIndex (some 0) ((List.range count).map fun j => some (entry j)) = some i ↔
      MostNegative entry count i := by
  rw [leastIndex_eq_some_iff]
  constructor
  · rintro ⟨x, below, least⟩
    obtain ⟨inside, here, minimal, leftmost⟩ := leastAt_map_range_iff.mp least
    cases here
    exact ⟨inside, of_decide_eq_true below, fun j j_inside => minimal j j_inside _ rfl,
      fun j before => leftmost j before _ rfl⟩
  · intro most
    refine ⟨entry i, decide_eq_true most.negative, leastAt_map_range_iff.mpr
      ⟨most.inside, rfl, fun j j_inside y at_j => ?_, fun j before y at_j => ?_⟩⟩
    · cases at_j
      exact most.minimal j j_inside
    · cases at_j
      exact most.leftmost j before

theorem leastIndex_entries_eq_none_iff :
    leastIndex (some 0) ((List.range count).map fun j => some (entry j)) = none ↔
      ∀ j < count, 0 ≤ entry j := by
  rw [leastIndex_eq_none_iff]
  constructor
  · intro above j inside
    have not_below := above _ (mem_map_range.mpr ⟨j, inside, rfl⟩)
    exact not_lt.mp (of_decide_eq_false not_below)
  · intro nonneg y mem
    obtain ⟨j, inside, at_j⟩ := mem_map_range.mp mem
    cases at_j
    exact decide_eq_false (not_lt.mpr (nonneg j inside))

/-- The ratio at a position with a positive entry. -/
def ratioAt (k : Nat) : Option Rat := if 0 < entry k then some (rhs k / entry k) else none

variable {entry rhs}

theorem ratioAt_of_pos {k : Nat} (positive : 0 < entry k) :
    ratioAt entry rhs k = some (rhs k / entry k) :=
  if_pos positive

theorem ratioAt_eq_some_iff {k : Nat} {y : Rat} :
    ratioAt entry rhs k = some y ↔ 0 < entry k ∧ rhs k / entry k = y := by
  rw [ratioAt, Option.ite_none_right_eq_some, Option.some.injEq]

variable (entry rhs)

theorem leastIndex_ratios_eq_some_iff :
    leastIndex none ((List.range count).map (ratioAt entry rhs)) = some i ↔
      LeastRatio entry rhs count i := by
  rw [leastIndex_eq_some_iff]
  constructor
  · rintro ⟨x, _, least⟩
    obtain ⟨inside, here, minimal, highest⟩ := leastAt_map_range_iff.mp least
    obtain ⟨positive, rfl⟩ := ratioAt_eq_some_iff.mp here
    exact ⟨inside, positive, fun k k_inside above => minimal k k_inside _ (ratioAt_of_pos above),
      fun k before above => highest k before _ (ratioAt_of_pos above)⟩
  · intro least
    refine ⟨rhs i / entry i, rfl, leastAt_map_range_iff.mpr ⟨least.inside,
      ratioAt_of_pos least.positive, fun k k_inside y at_k => ?_, fun k before y at_k => ?_⟩⟩
    · obtain ⟨positive, rfl⟩ := ratioAt_eq_some_iff.mp at_k
      exact least.minimal k k_inside positive
    · obtain ⟨positive, rfl⟩ := ratioAt_eq_some_iff.mp at_k
      exact least.highest k before positive

theorem leastIndex_ratios_eq_none_iff :
    leastIndex none ((List.range count).map (ratioAt entry rhs)) = none ↔
      ∀ k < count, entry k ≤ 0 := by
  rw [leastIndex_eq_none_iff]
  constructor
  · intro above k inside
    by_contra positive
    have candidate : ratioAt entry rhs k = some (rhs k / entry k) :=
      ratioAt_of_pos (not_le.mp positive)
    cases above _ (mem_map_range.mpr ⟨k, inside, candidate⟩)
  · intro nonpositive y mem
    obtain ⟨k, inside, at_k⟩ := mem_map_range.mp mem
    exact absurd (ratioAt_eq_some_iff.mp at_k).1 (not_lt.mpr (nonpositive k inside))

end Positions

/-! ## The two rules -/

namespace Tableau

variable {t : Tableau Rat} {c i : Nat}

/-- The columns that may enter, counted from the left. -/
def enteringCount (t : Tableau Rat) (withArtificials : Bool) : Nat :=
  if withArtificials then t.layout.width else t.layout.realCount

theorem enteringCount_le (t : Tableau Rat) (withArtificials : Bool) :
    t.enteringCount withArtificials ≤ t.layout.width := by
  unfold enteringCount
  split
  · exact le_rfl
  · exact Nat.le_add_right _ _

/-- Right-hand side of a constraint row; zero where there is none. -/
def rhs (t : Tableau Rat) (row : Nat) : Rat := (t.rows[row]?.map fun r => r.row.rhs).getD 0

theorem rhs_of_getElem? {r : BasicRow Rat} (at_i : t.rows[i]? = some r) : t.rhs i = r.row.rhs := by
  rw [rhs, at_i]
  rfl

section Entering

variable {withArtificials : Bool}

/-- The candidates of the entering rule are the entries of the objective row, as far as it goes. -/
theorem enteringColumn_eq (t : Tableau Rat) (withArtificials : Bool) :
    t.enteringColumn withArtificials = leastIndex (some 0)
      ((List.range (min (t.enteringCount withArtificials) t.objective.cells.length)).map
        fun j => some (t.objective.entry j)) := by
  have candidates := map_eq_map_range (t.objective.cells.take (t.enteringCount withArtificials))
    (f := some) (g := fun j => some (t.objective.entry j)) fun j x at_j => ?_
  · rw [List.length_take] at candidates
    rw [← candidates]
    rfl
  · rw [List.getElem?_take, Option.ite_none_right_eq_some] at at_j
    rw [Row.entry, List.getD_eq_getElem?_getD, at_j.2]
    rfl

/-- No column enters exactly if no column in question has a negative objective entry. -/
theorem enteringColumn_eq_none_iff :
    t.enteringColumn withArtificials = none ↔
      ∀ c < t.enteringCount withArtificials, 0 ≤ t.objective.entry c := by
  rw [enteringColumn_eq, leastIndex_entries_eq_none_iff]
  refine ⟨fun nonneg c inside => ?_, fun nonneg c inside => nonneg c (lt_min_iff.mp inside).1⟩
  rcases Nat.lt_or_ge c t.objective.cells.length with here | beyond
  · exact nonneg c (lt_min inside here)
  · exact (Row.entry_of_le beyond).ge

/-- The entering column is the leftmost of the most negative objective entries. -/
theorem enteringColumn_eq_some_iff :
    t.enteringColumn withArtificials = some c ↔
      MostNegative t.objective.entry (t.enteringCount withArtificials) c := by
  rw [enteringColumn_eq, leastIndex_entries_eq_some_iff]
  constructor
  · rintro ⟨inside, negative, minimal, leftmost⟩
    refine ⟨(lt_min_iff.mp inside).1, negative, fun j j_inside => ?_, leftmost⟩
    -- An entry that the row does not have counts as zero, which is more than a negative one.
    rcases Nat.lt_or_ge j t.objective.cells.length with here | beyond
    · exact minimal j (lt_min j_inside here)
    · exact negative.le.trans (Row.entry_of_le beyond).ge
  · rintro ⟨inside, negative, minimal, leftmost⟩
    have here : c < t.objective.cells.length := by
      by_contra beyond
      exact negative.ne (Row.entry_of_le (not_lt.mp beyond))
    exact ⟨lt_min inside here, negative, fun j j_inside => minimal j (lt_min_iff.mp j_inside).1,
      leftmost⟩

end Entering

/-- The candidates of the leaving rule are the ratios of the rows with a positive entry. -/
theorem leavingRow_eq (t : Tableau Rat) (c : Nat) :
    t.leavingRow c = leastIndex none
      ((List.range t.constraintCount).map (ratioAt (t.entry · c) t.rhs)) := by
  refine congrArg (leastIndex none) (map_eq_map_range t.rows fun i r at_i => ?_)
  rw [ratioAt, entry_of_getElem? at_i, rhs_of_getElem? at_i]
  rfl

theorem leavingRow_eq_none_iff_entry :
    t.leavingRow c = none ↔ ∀ i < t.constraintCount, t.entry i c ≤ 0 := by
  rw [leavingRow_eq, leastIndex_ratios_eq_none_iff]

theorem leavingRow_eq_some_iff_leastRatio :
    t.leavingRow c = some i ↔ LeastRatio (t.entry · c) t.rhs t.constraintCount i := by
  rw [leavingRow_eq, leastIndex_ratios_eq_some_iff]

/-- No row leaves exactly if no row has a positive entry in the column. -/
theorem leavingRow_eq_none_iff :
    t.leavingRow c = none ↔ ∀ r ∈ t.rows, r.row.entry c ≤ 0 := by
  rw [leavingRow_eq_none_iff_entry]
  constructor
  · intro nonpositive r mem
    obtain ⟨k, at_k⟩ := List.mem_iff_getElem?.mp mem
    rw [← entry_of_getElem? at_k]
    exact nonpositive k (List.getElem?_eq_some_iff.mp at_k).1
  · intro nonpositive k inside
    rw [entry_of_getElem? (List.getElem?_eq_getElem inside)]
    exact nonpositive _ (List.getElem_mem inside)

/-- The leaving row is the highest of the rows with the least ratio. -/
theorem leavingRow_eq_some_iff :
    t.leavingRow c = some i ↔
      ∃ r, t.rows[i]? = some r ∧ 0 < r.row.entry c ∧
        (∀ s ∈ t.rows, 0 < s.row.entry c →
          r.row.rhs / r.row.entry c ≤ s.row.rhs / s.row.entry c) ∧
        ∀ k < i, ∀ s, t.rows[k]? = some s → 0 < s.row.entry c →
          r.row.rhs / r.row.entry c < s.row.rhs / s.row.entry c := by
  rw [leavingRow_eq_some_iff_leastRatio]
  constructor
  · rintro ⟨inside, positive, minimal, highest⟩
    have at_i : t.rows[i]? = some t.rows[i] := List.getElem?_eq_getElem inside
    simp only [entry_of_getElem? at_i, rhs_of_getElem? at_i] at positive minimal highest
    refine ⟨_, at_i, positive, fun s mem s_positive => ?_, fun k before s at_k s_positive => ?_⟩
    · obtain ⟨k, at_k⟩ := List.mem_iff_getElem?.mp mem
      rw [← entry_of_getElem? at_k] at s_positive ⊢
      rw [← rhs_of_getElem? at_k]
      exact minimal k (List.getElem?_eq_some_iff.mp at_k).1 s_positive
    · rw [← entry_of_getElem? at_k] at s_positive ⊢
      rw [← rhs_of_getElem? at_k]
      exact highest k before s_positive
  · rintro ⟨r, at_i, positive, minimal, highest⟩
    have inside : i < t.rows.length := (List.getElem?_eq_some_iff.mp at_i).1
    constructor
    · exact inside
    · rw [entry_of_getElem? at_i]
      exact positive
    · intro k k_inside k_positive
      have at_k : t.rows[k]? = some t.rows[k] := List.getElem?_eq_getElem k_inside
      simp only [entry_of_getElem? at_k, entry_of_getElem? at_i, rhs_of_getElem? at_k,
        rhs_of_getElem? at_i] at k_positive ⊢
      exact minimal _ (List.getElem_mem k_inside) k_positive
    · intro k before k_positive
      have at_k : t.rows[k]? = some t.rows[k] := List.getElem?_eq_getElem (before.trans inside)
      simp only [entry_of_getElem? at_k, entry_of_getElem? at_i, rhs_of_getElem? at_k,
        rhs_of_getElem? at_i] at k_positive ⊢
      exact highest k before _ at_k k_positive

end Tableau

end LinearProgram

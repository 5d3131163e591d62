import LinearProgram.Proofs.Shape
import LinearProgram.Proofs.Sheet.Access

/-!
# Rows that are written entry by entry

The operations on a sheet go through the positions of a row or through the rows
of the matrix, and each pass reads what the passes before it have written.  Here
such a loop is followed pass by pass: in between, the entries before the current
position are the new ones and the others are still the old ones (`partly`).

* `foldlM_range`: a loop over positions, from what holds before each of them.
* `Sheet.foldlM_set?`, `Sheet.writeRow?_eq`: a row that is written from left to right.
* `Sheet.divideRow?_eq`, `Sheet.eliminateRow?_eq`: the row operations of `Row`.
* `Sheet.foldlM_eliminateRow?`: a column that is cleared in all rows but one.
-/

namespace LinearProgram

/-! ## Loops over positions -/

/-- An access that succeeds hands its value on. -/
theorem bind_of_eq_some {β γ : Type} {x : Option β} {f : β → Option γ} {a : β} {b : Option γ}
    (here : x = some a) (rest : f a = b) : x >>= f = b := by
  rw [here]
  exact rest

/-- A loop goes through the states that each of its passes leads to. -/
theorem foldlM_range {σ : Type} (pass : σ → Nat → Option σ) (state : Nat → σ) (count : Nat)
    (passes : ∀ i < count, pass (state i) i = some (state (i + 1))) :
    (List.range count).foldlM pass (state 0) = some (state count) := by
  induction count with
  | zero => rfl
  | succ count ih =>
    rw [List.range_succ, List.foldlM_append, ih fun i inside => passes i (by omega)]
    simp [passes count (Nat.lt_succ_self count)]

section Lookup

variable {β : Type} (xs : List β)

/-- A loop over the positions of a list that only looks up what stands there is a fold. -/
theorem foldlM_range_eq_foldl {σ : Type} {pass : σ → Nat → Option σ} {step : σ → β → σ}
    (passes : ∀ s i x, xs[i]? = some x → pass s i = some (step s x)) (start : σ) :
    (List.range xs.length).foldlM pass start = some (xs.foldl step start) := by
  have loop := foldlM_range pass (fun k => (xs.take k).foldl step start) xs.length
    fun i inside => ?_
  · rwa [List.take_length] at loop
  · rw [passes _ i xs[i] (List.getElem?_eq_getElem inside), ← List.take_append_getElem inside,
      List.foldl_append]
    rfl

/-- Looking for a position in steps of one finds the first. -/
theorem findM?_range' (pass : Nat → Option Bool) (test : β → Bool) (position : Nat)
    (passes : ∀ i x, xs[i]? = some x → pass (position + i) = some (test x)) :
    (List.range' position xs.length).findM? pass =
      some ((xs.findIdx? test).map (position + ·)) := by
  induction xs generalizing position with
  | nil => rfl
  | cons x rest ih =>
    have here : pass position = some (test x) := passes 0 x rfl
    have later := ih (position + 1) fun i y at_i => by
      rw [Nat.add_assoc, Nat.add_comm 1]
      exact passes (i + 1) y at_i
    rw [List.length_cons, List.range'_succ, List.findM?, here, List.findIdx?_cons]
    cases test x with
    | true => rfl
    | false =>
      have shift : (fun k => position + (k + 1)) = fun k => position + 1 + k :=
        funext fun k => by omega
      rw [if_neg Bool.false_ne_true, Option.map_map]
      exact later.trans (congrArg (fun f => some ((rest.findIdx? test).map f)) shift.symm)

/-- Looking for a position finds the first. -/
theorem findM?_range (pass : Nat → Option Bool) (test : β → Bool)
    (passes : ∀ i x, xs[i]? = some x → pass i = some (test x)) :
    (List.range xs.length).findM? pass = some (xs.findIdx? test) := by
  rw [List.range_eq_range', findM?_range' xs pass test 0 fun i x at_i => by
    rw [Nat.zero_add]
    exact passes i x at_i]
  simp only [Nat.zero_add, Option.map_id']

theorem findIdx?_congr {test other : β → Bool} (same : ∀ x ∈ xs, test x = other x) :
    xs.findIdx? test = xs.findIdx? other := by
  induction xs with
  | nil => rfl
  | cons x rest ih =>
    rw [List.findIdx?_cons, List.findIdx?_cons, same x List.mem_cons_self,
      ih fun y mem => same y (List.mem_cons_of_mem x mem)]

end Lookup

/-- Values that can all be looked up. -/
theorem mapM_range {β : Type} {look : Nat → Option β} {value : Nat → β} {count : Nat}
    (found : ∀ j < count, look j = some (value j)) :
    (List.range count).mapM look = some ((List.range count).map value) := by
  induction count with
  | zero => rfl
  | succ count ih =>
    rw [List.range_succ, List.mapM_append, ih fun j inside => found j (by omega)]
    simp [found count (Nat.lt_succ_self count)]

/-- The old list with its entries before a position replaced by new ones. -/
def partly {β : Type} (new old : List β) (count : Nat) : List β := new.take count ++ old.drop count

section Partly

variable {β : Type} {new old : List β} (length : new.length = old.length)

@[simp] theorem partly_zero (new old : List β) : partly new old 0 = old := rfl

include length

theorem partly_length : partly new old new.length = new := by
  rw [partly, List.take_length, length, List.drop_length, List.append_nil]

@[simp] theorem length_partly (count : Nat) : (partly new old count).length = old.length := by
  rw [partly, List.length_append, List.length_take, List.length_drop, length]
  omega

theorem getElem?_partly (count j : Nat) :
    (partly new old count)[j]? = if j < count then new[j]? else old[j]? := by
  unfold partly
  rw [List.getElem?_append, List.length_take]
  by_cases before : j < count
  · rw [if_pos before, List.getElem?_take_of_lt before]
    split
    · rfl
    · rw [List.getElem?_drop, List.getElem?_eq_none (by omega), List.getElem?_eq_none (by omega)]
  · rw [if_neg before, if_neg (by omega), List.getElem?_drop]
    by_cases inside : count ≤ new.length
    · rw [Nat.min_eq_left inside, show count + (j - count) = j by omega]
    · rw [List.getElem?_eq_none (by omega), List.getElem?_eq_none (by omega)]

/-- The next entry is replaced. -/
theorem set_partly {count : Nat} {x : β} (at_count : new[count]? = some x) :
    (partly new old count).set count x = partly new old (count + 1) := by
  refine List.ext_getElem? fun j => ?_
  have inside : count < old.length := length ▸ (List.getElem?_eq_some_iff.mp at_count).1
  rw [List.getElem?_set, getElem?_partly length, getElem?_partly length, length_partly length]
  by_cases same : count = j
  · subst same
    rw [if_pos rfl, if_pos inside, if_pos (Nat.lt_succ_self _), at_count]
  · rw [if_neg same]
    exact if_congr (by omega) rfl rfl

/-- Nothing is to be replaced where both lists agree. -/
theorem partly_succ_of_eq {count : Nat} (same : new[count]? = old[count]?) :
    partly new old (count + 1) = partly new old count := by
  refine List.ext_getElem? fun j => ?_
  rw [getElem?_partly length, getElem?_partly length]
  rcases Nat.lt_trichotomy j count with before | rfl | after
  · rw [if_pos (by omega), if_pos before]
  · rw [if_pos (by omega), if_neg (lt_irrefl j), same]
  · rw [if_neg (by omega), if_neg (by omega)]

end Partly

variable {α : Type}

/-! ## Rows of a sheet -/

namespace Sheet

variable {t : Sheet α} {i k c : Nat} {cells new : List α}

theorem get?_of_row (at_i : t.data[i]? = some cells) (c : Nat) : t.get? i c = cells[c]? := by
  unfold get?
  rw [at_i]
  rfl

/-- The sheet with other entries. -/
def withData (t : Sheet α) (data : List (List α)) : Sheet α := { t with data }

theorem getElem?_setRow_self (at_i : t.data[i]? = some cells) (new : List α) :
    (t.setRow i new).data[i]? = some new :=
  List.getElem?_set_self (List.getElem?_eq_some_iff.mp at_i).1

theorem getElem?_setRow_of_ne (ne : i ≠ k) (new : List α) :
    (t.setRow i new).data[k]? = t.data[k]? :=
  List.getElem?_set_ne ne

theorem setRow_self (at_i : t.data[i]? = some cells) : t.setRow i cells = t := by
  obtain ⟨inside, rfl⟩ := List.getElem?_eq_some_iff.mp at_i
  unfold setRow
  rw [List.set_getElem_self]

theorem setRow_setRow (t : Sheet α) (i : Nat) (cells new : List α) :
    (t.setRow i cells).setRow i new = t.setRow i new := by
  unfold setRow
  rw [List.set_set]

theorem set?_of_row (at_i : t.data[i]? = some cells) (inside : c < cells.length) (x : α) :
    t.set? i c x = some (t.setRow i (cells.set c x)) := by
  unfold set?
  rw [at_i]
  simp [inside]

/-- The first entries of a row are written as intended if each of them comes out as it should once
those before it have been written. -/
theorem foldlM_set? (entry : Sheet α → Nat → Option α) (at_i : t.data[i]? = some cells)
    (length : new.length = cells.length) {count : Nat} (within : count ≤ new.length)
    (entries : ∀ j < count, entry (t.setRow i (partly new cells j)) j = new[j]?) :
    (List.range count).foldlM (fun u j => do u.set? i j (← entry u j)) t =
      some (t.setRow i (partly new cells count)) := by
  have loop := foldlM_range (fun u j => do u.set? i j (← entry u j))
    (fun j => t.setRow i (partly new cells j)) count fun j j_lt => ?_
  · rwa [partly_zero, setRow_self at_i] at loop
  · have inside : j < new.length := j_lt.trans_le within
    have at_j : new[j]? = some new[j] := List.getElem?_eq_getElem inside
    have row := getElem?_setRow_self at_i (partly new cells j)
    have bound : j < (partly new cells j).length := by rwa [length_partly length, ← length]
    refine bind_of_eq_some ((entries j j_lt).trans at_j) ?_
    rw [set?_of_row row bound, setRow_setRow, set_partly length at_j]

theorem writeRow?_eq {entry : Sheet α → Nat → Option α} (at_i : t.data[i]? = some cells)
    (width : cells.length = t.labels.length) (length : new.length = cells.length)
    (entries : ∀ j < new.length, entry (t.setRow i (partly new cells j)) j = new[j]?) :
    t.writeRow? i entry = some (t.setRow i new) := by
  rw [writeRow?, ← width, ← length, foldlM_set? entry at_i length le_rfl entries,
    partly_length length]

/-- Values that are written one after the other replace the first entries of a row. -/
theorem foldlM_set?_values (at_i : t.data[i]? = some cells) (within : new.length ≤ cells.length) :
    (List.range new.length).foldlM (fun u j => do u.set? i j (← new[j]?)) t =
      some (t.setRow i (new ++ cells.drop new.length)) := by
  have length : (new ++ cells.drop new.length).length = cells.length := by
    rw [List.length_append, List.length_drop]
    omega
  have loop := foldlM_set? (fun _ j => new[j]?) at_i length (by rwa [length])
    fun j (inside : j < new.length) => (List.getElem?_append_left inside).symm
  rwa [partly, List.take_left] at loop

/-! ### One entry -/

variable {r : Row α}

theorem set?_cell (at_i : t.data[i]? = some r.entries) (inside : c < r.cells.length) (x : α) :
    t.set? i c x = some (t.setRow i { r with cells := r.cells.set c x }.entries) := by
  rw [set?_of_row at_i (by simp [Row.entries]; omega), Row.entries,
    List.set_append_left _ _ inside]
  rfl

theorem set?_mark (at_i : t.data[i]? = some r.entries) (x : α) :
    t.set? i r.cells.length x = some (t.setRow i { r with mark := x }.entries) := by
  rw [set?_of_row at_i (by simp [Row.entries]), Row.entries, List.set_append_right _ _ le_rfl,
    Nat.sub_self]
  rfl

theorem set?_rhs (at_i : t.data[i]? = some r.entries) (x : α) :
    t.set? i (r.cells.length + 1) x = some (t.setRow i { r with rhs := x }.entries) := by
  rw [set?_of_row at_i (by simp [Row.entries]), Row.entries,
    List.set_append_right _ _ (Nat.le_succ _), Nat.succ_sub le_rfl, Nat.sub_self]
  rfl

end Sheet

namespace Row

@[simp] theorem length_entries (r : Row α) : r.entries.length = r.cells.length + 2 := by
  simp [entries]

variable [Scalar α]

theorem entries_divide (r : Row α) (x : α) : (r.divide x).entries = r.entries.map (· / x) := by
  simp [entries, divide]

theorem entries_subtract {r s : Row α} (width : r.cells.length = s.cells.length) (factor : α) :
    (r.subtract factor s).entries =
      List.zipWith (fun a b => a - factor * b) r.entries s.entries := by
  unfold entries subtract
  rw [List.zipWith_append width]
  rfl

end Row

namespace Sheet

variable [Scalar α] {t : Sheet α} {i k c : Nat} {r s : Row α}

theorem divideRow?_eq (at_i : t.data[i]? = some r.entries)
    (width : r.entries.length = t.labels.length) (x : α) :
    t.divideRow? i x = some (t.setRow i (r.divide x).entries) := by
  refine writeRow?_eq at_i width (by simp) fun j inside => ?_
  have row := getElem?_setRow_self at_i (partly (r.divide x).entries r.entries j)
  rw [get?_of_row row, getElem?_partly (by simp), if_neg (lt_irrefl j), Row.entries_divide,
    List.getElem?_map]
  cases r.entries[j]? <;> rfl

theorem subtractRow?_eq (at_i : t.data[i]? = some r.entries) (at_k : t.data[k]? = some s.entries)
    (apart : i ≠ k) (width : r.entries.length = t.labels.length)
    (same : r.cells.length = s.cells.length) (factor : α) :
    t.subtractRow? i factor k = some (t.setRow i (r.subtract factor s).entries) := by
  have length := Row.length_subtract same factor
  refine writeRow?_eq at_i width (by simp [length]) fun j inside => ?_
  have row := getElem?_setRow_self at_i (partly (r.subtract factor s).entries r.entries j)
  have other := (getElem?_setRow_of_ne (t := t) apart
    (partly (r.subtract factor s).entries r.entries j)).trans at_k
  have r_inside : j < r.entries.length := by simpa [length] using inside
  have s_inside : j < s.entries.length := by simpa [← same] using r_inside
  rw [get?_of_row row, get?_of_row other, getElem?_partly (by simp [length]),
    if_neg (lt_irrefl j), Row.entries_subtract same, List.getElem?_zipWith,
    List.getElem?_eq_getElem r_inside, List.getElem?_eq_getElem s_inside]
  rfl

theorem eliminateRow?_eq (at_i : t.data[i]? = some r.entries) (at_k : t.data[k]? = some s.entries)
    (apart : i ≠ k) (width : r.entries.length = t.labels.length)
    (same : r.cells.length = s.cells.length) (inside : c < r.cells.length) :
    t.eliminateRow? i k c = some (t.setRow i (r.eliminate c s).entries) := by
  unfold eliminateRow? Row.eliminate
  refine bind_of_eq_some ((get?_of_row at_i c).trans (Row.getElem?_entries inside)) ?_
  split
  · rw [setRow_self at_i]
    rfl
  · exact subtractRow?_eq at_i at_k apart width same _

/-- Clearing a column in all rows but one. -/
theorem foldlM_eliminateRow? {rows : List (Row α)} {width : Nat}
    (data : t.data = rows.map Row.entries) (at_i : rows[i]? = some s)
    (widths : ∀ q ∈ rows, q.cells.length = width) (inside : c < width)
    (labels : t.labels.length = width + 2) :
    (List.range rows.length).foldlM
        (fun u k => if k = i then some u else u.eliminateRow? k i c) t =
      some (t.withData
        ((rows.mapIdx fun k q => if k = i then q else q.eliminate c s).map Row.entries)) := by
  let new := (rows.mapIdx fun k q => if k = i then q else q.eliminate c s).map Row.entries
  have new_at : ∀ {k : Nat} {q : Row α}, rows[k]? = some q →
      new[k]? = some (if k = i then q else q.eliminate c s).entries := by
    intro k q at_k
    rw [List.getElem?_map, List.getElem?_mapIdx, at_k]
    rfl
  have length : new.length = (rows.map Row.entries).length := by simp [new]
  -- Before each pass the rows above have been cleared and the others are still as they were.
  have loop := foldlM_range (fun u k => if k = i then some u else u.eliminateRow? k i c)
    (fun k => t.withData (partly new (rows.map Row.entries) k)) rows.length fun k bound => ?_
  · have full : partly new (rows.map Row.entries) rows.length = new := by
      rw [← List.length_map (f := Row.entries), ← length, partly_length length]
    rwa [partly_zero, full, ← data] at loop
  · have at_k : rows[k]? = some rows[k] := List.getElem?_eq_getElem bound
    have old_at : (rows.map Row.entries)[k]? = some rows[k].entries := by
      rw [List.getElem?_map, at_k, Option.map_some]
    by_cases same : k = i
    · subst same
      have unchanged := new_at at_k
      rw [if_pos rfl, ← old_at] at unchanged
      rw [if_pos rfl, partly_succ_of_eq length unchanged]
    · have here : (partly new (rows.map Row.entries) k)[k]? = some rows[k].entries := by
        rw [getElem?_partly length, if_neg (lt_irrefl k), old_at]
      have other : (partly new (rows.map Row.entries) k)[i]? = some s.entries := by
        rw [getElem?_partly length, new_at at_i, if_pos rfl, List.getElem?_map, at_i,
          Option.map_some, ite_self]
      have k_width := widths _ (List.getElem_mem bound)
      have i_width := widths _ (List.mem_of_getElem? at_i)
      have eliminated := eliminateRow?_eq (t := t.withData (partly new (rows.map Row.entries) k))
        here other same (by rw [Row.length_entries, k_width]; exact labels.symm)
        (k_width.trans i_width.symm) (inside.trans_eq k_width.symm)
      have next := new_at at_k
      rw [if_neg same] at next
      rw [if_neg same, eliminated]
      unfold setRow withData
      rw [set_partly length next]

end Sheet

end LinearProgram

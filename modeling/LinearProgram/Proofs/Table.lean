import Mathlib.Algebra.GroupWithZero.Nat
import Mathlib.Order.Bounds.Defs
import Mathlib.Order.Lattice.Nat
import LinearProgram.Report.Table

/-!
# Rendered tables can be read back

A table of words, which are neither empty nor contain blanks, loses nothing when
it is rendered.  Each of its rows is a line, the words of the line are the cells
of the row, and all cells of a column end at the same place, because a cell is
only ever padded on its left and the column has room for it.

Rendering looks up the width of a column by its position.  There is a width for
each position of the longest row, so this does not fail, also for rows of different
lengths.  What fails is a width that is too large, and a column is as wide as one of
its cells: a table is rendered exactly if each of its cells is short enough.

* `Text.words`: the words of a line, by splitting it at blanks.
* `exists_render?_iff`: which tables are rendered.
* `Shows`: what it means for a line to show a row.
* `shows_line`: the line that is rendered shows its row.
-/

namespace LinearProgram

/-! ## Words of a line -/

namespace Text

/-- The words of a line, between its blanks. -/
def words (cs : List Char) : List (List Char) := (cs.splitOnP isBlank).filter (· ≠ [])

/-- Characters that splitting at blanks does not take apart. -/
structure IsWord (cs : List Char) : Prop where
  nonempty : cs ≠ []
  solid : ∀ c ∈ cs, isBlank c = false

theorem isWord_iff {cs : List Char} : IsWord cs ↔ cs ≠ [] ∧ cs.any isBlank = false := by
  constructor
  · rintro ⟨nonempty, solid⟩
    refine ⟨nonempty, List.any_eq_false.mpr fun c mem => ?_⟩
    rw [solid c mem]
    exact Bool.false_ne_true
  · rintro ⟨nonempty, unblank⟩
    exact ⟨nonempty, fun c mem => Bool.eq_false_of_not_eq_true (List.any_eq_false.mp unblank c mem)⟩

instance (cs : List Char) : Decidable (IsWord cs) :=
  decidable_of_iff _ isWord_iff.symm

theorem words_blank_cons {c : Char} (blank : isBlank c = true) (cs : List Char) :
    words (c :: cs) = words cs := by
  unfold words
  rw [List.splitOnP_cons_eq_if_modifyHead, if_pos blank]
  rfl

theorem words_spaces_append (n : Nat) (cs : List Char) :
    words (List.replicate n ' ' ++ cs) = words cs := by
  induction n with
  | zero => rfl
  | succ n ih => rw [List.replicate_succ, List.cons_append, words_blank_cons rfl, ih]

namespace IsWord

variable {w : List Char} (word : IsWord w)

include word

theorem words_eq : words w = [w] := by
  unfold words
  rw [List.splitOnP_eq_singleton word.solid]
  simp [word.nonempty]

/-- A blank ends a word. -/
theorem words_append_blank_cons {c : Char} (blank : isBlank c = true) (cs : List Char) :
    words (w ++ c :: cs) = w :: words cs := by
  unfold words
  rw [List.splitOnP_append_cons_of_forall_mem word.solid c blank]
  simp [word.nonempty]

/-- There is nothing to drop at the end of a line that ends with a word. -/
theorem trimEndChars_append (cs : List Char) : trimEndChars (cs ++ w) = cs ++ w := by
  obtain ⟨front, last, rfl⟩ := (List.eq_nil_or_concat w).resolve_left word.nonempty
  have solid := word.solid last (by simp)
  unfold trimEndChars
  simp [solid]

end IsWord

end Text

namespace Table

open Text (words IsWord)

/-! ## Widths of columns -/

/-- The largest of some numbers, found by a fold, is one of them. -/
theorem foldl_max_isGreatest {xs : List Nat} (nonempty : xs ≠ []) :
    IsGreatest {x | x ∈ xs} (xs.foldl max 0) := by
  obtain ⟨m, largest⟩ := Option.ne_none_iff_exists'.mp (mt List.max?_eq_none_iff.mp nonempty)
  rw [List.foldl_max, largest, Option.getD_some, Nat.zero_max]
  exact List.max?_eq_some_iff.mp largest

variable {table : List (List String)} {row : List String} {j : Nat}

theorem length_columnWidths (table : List (List String)) :
    (columnWidths table).length = columnCount table := by
  simp [columnWidths]

theorem length_le_columnCount (mem : row ∈ table) : row.length ≤ columnCount table := by
  have nonempty : table.map List.length ≠ [] := List.ne_nil_of_mem (List.mem_map_of_mem mem)
  exact (foldl_max_isGreatest nonempty).2 (List.mem_map_of_mem mem)

theorem exists_row_of_lt (inside : j < columnCount table) :
    ∃ row ∈ table, ∃ cell, row[j]? = some cell := by
  have nonempty : table.map List.length ≠ [] := by
    rintro none
    rw [columnCount, none] at inside
    exact absurd inside (Nat.not_lt_zero j)
  obtain ⟨row, mem, longest⟩ := List.mem_map.mp (foldl_max_isGreatest nonempty).1
  have j_lt : j < row.length := longest ▸ inside
  exact ⟨row, mem, row[j], List.getElem?_eq_getElem j_lt⟩

/-- A column is as wide as the widest cell that is present in it. -/
theorem columnWidth_isGreatest (inside : j < columnCount table) :
    IsGreatest {n | ∃ row ∈ table, ∃ cell, row[j]? = some cell ∧ cell.length = n}
      (columnWidth table j) := by
  obtain ⟨present, present_mem, cell, at_j⟩ := exists_row_of_lt inside
  have nonempty : table.map (cellWidth j) ≠ [] :=
    List.ne_nil_of_mem (List.mem_map_of_mem present_mem)
  have widths := foldl_max_isGreatest nonempty
  have bound : ∀ row ∈ table, ∀ cell, row[j]? = some cell → cell.length ≤ columnWidth table j := by
    intro row mem cell at_j
    have below := widths.2 (List.mem_map_of_mem mem)
    rwa [cellWidth, at_j] at below
  refine ⟨?_, fun n ⟨row, mem, cell, at_j, width⟩ => width ▸ bound row mem cell at_j⟩
  obtain ⟨widest, widest_mem, width⟩ := List.mem_map.mp widths.1
  rcases widest_at : widest[j]? with _ | widest_cell
  · -- A row without such a cell counts as zero, so no cell of the column has any characters.
    have zero : columnWidth table j = 0 := by
      rw [columnWidth, ← width, cellWidth, widest_at]
      rfl
    have below := bound present present_mem cell at_j
    exact ⟨present, present_mem, cell, at_j, by omega⟩
  · refine ⟨widest, widest_mem, widest_cell, widest_at, ?_⟩
    rw [columnWidth, ← width, cellWidth, widest_at]
    rfl

/-- Every cell of a row has a column that is wide enough for it. -/
def HasRoom (widths : List Nat) (row : List String) : Prop :=
  ∀ (j : Nat) (cell : String), row[j]? = some cell →
    ∃ width, widths[j]? = some width ∧ cell.length ≤ width

theorem hasRoom_columnWidths (mem : row ∈ table) : HasRoom (columnWidths table) row := by
  intro j cell at_j
  have inside : j < columnCount table :=
    (List.getElem?_eq_some_iff.mp at_j).1.trans_le (length_le_columnCount mem)
  refine ⟨columnWidth table j, ?_, (columnWidth_isGreatest inside).2 ⟨row, mem, cell, at_j, rfl⟩⟩
  simp [columnWidths, inside]

/-- A row with a first cell needs a first column, and room for the rest behind it. -/
theorem HasRoom.cons {widths : List Nat} {cell : String} {rest : List String}
    (room : HasRoom widths (cell :: rest)) :
    ∃ width others, widths = width :: others ∧ cell.length ≤ width ∧ HasRoom others rest := by
  obtain ⟨width, at_zero, enough⟩ := room 0 cell rfl
  cases widths with
  | nil => cases at_zero
  | cons first others =>
    cases at_zero
    exact ⟨width, others, rfl, enough, fun j c at_j => room (j + 1) c at_j⟩

/-! ## Which tables are rendered -/

/-- The padded cells of a row, however wide its columns are. -/
def paddedCells (widths : List Nat) (row : List String) : List (List Char) :=
  List.zipWith (fun width cell => padLeft width cell.toList) widths row

/-- The line of a row, however wide its columns are. -/
def line (widths : List Nat) (row : List String) : List Char :=
  Text.trimEndChars (List.intercalate [' ', ' '] (paddedCells widths row))

/-- The lines of a table, however wide its columns are. -/
def text (table : List (List String)) : String :=
  String.ofList (table.flatMap fun row => line (columnWidths table) row ++ ['\n'])

theorem padCells?_eq {widths : List Nat} {column : Nat} {row : List String}
    (room : HasRoom (widths.drop column) row) (narrow : ∀ width ∈ widths, width ≤ widthLimit) :
    padCells? widths column row = some (paddedCells (widths.drop column) row) := by
  induction row generalizing column with
  | nil => simp [padCells?, paddedCells]
  | cons cell rest ih =>
    obtain ⟨width, others, here, _, later⟩ := room.cons
    have at_column : widths[column]? = some width := by
      rw [← Nat.add_zero column, ← List.getElem?_drop, here]
      rfl
    have tail : widths.drop (column + 1) = others := by
      rw [← List.drop_drop, here]
      rfl
    have padded : padCell? width cell = some (padLeft width cell.toList) :=
      if_pos (narrow width (List.mem_of_getElem? at_column))
    rw [← tail] at later
    rw [padCells?, at_column, ih later, here, tail]
    simp only [Option.bind_eq_bind, Option.bind_some, padded]
    rfl

/-- The columns of a row that has been padded are narrow. -/
theorem width_le_of_padCells? {widths : List Nat} {column j width : Nat} {row : List String}
    {cells : List (List Char)} (padded : padCells? widths column row = some cells)
    (j_lt : j < row.length) (at_j : widths[column + j]? = some width) : width ≤ widthLimit := by
  induction row generalizing column j cells with
  | nil => exact absurd j_lt (Nat.not_lt_zero j)
  | cons cell rest ih =>
    simp only [padCells?, Option.bind_eq_bind, Option.bind_eq_some_iff] at padded
    obtain ⟨first, at_column, chars, here, others, later, -⟩ := padded
    cases j with
    | zero =>
      cases at_column.symm.trans at_j
      by_contra above
      rw [padCell?, if_neg above] at here
      cases here
    | succ j =>
      refine ih later (Nat.lt_of_succ_lt_succ j_lt) ?_
      rwa [Nat.add_assoc, Nat.add_comm 1 j]

/-- Every line of a table that has been rendered has been rendered. -/
theorem exists_padCells?_of_lines? {widths : List Nat} {rows : List (List String)} {cs : List Char}
    (rendered : lines? widths rows = some cs) (mem : row ∈ rows) :
    ∃ cells, padCells? widths 0 row = some cells := by
  induction rows generalizing cs with
  | nil => cases mem
  | cons first rest ih =>
    simp only [lines?, line?, Option.bind_eq_bind, Option.bind_eq_some_iff] at rendered
    obtain ⟨_, ⟨cells, padded, -⟩, later, others, -⟩ := rendered
    rcases List.mem_cons.mp mem with rfl | behind
    · exact ⟨cells, padded⟩
    · exact ih others behind

/-- No cell of a table is longer than the largest width. -/
def Fits (table : List (List String)) : Prop :=
  ∀ row ∈ table, ∀ cell ∈ row, cell.length ≤ widthLimit

theorem Fits.columnWidths_le (fits : Fits table) :
    ∀ width ∈ columnWidths table, width ≤ widthLimit := by
  intro width mem
  obtain ⟨j, inside, rfl⟩ := List.mem_map.mp mem
  obtain ⟨row, row_mem, cell, at_j, widest⟩ :=
    (columnWidth_isGreatest (List.mem_range.mp inside)).1
  exact widest ▸ fits row row_mem cell (List.mem_of_getElem? at_j)

theorem Fits.render?_eq (fits : Fits table) : render? table = some (text table) := by
  have all : ∀ rows ⊆ table, lines? (columnWidths table) rows =
      some (rows.flatMap fun row => line (columnWidths table) row ++ ['\n']) := by
    intro rows part
    induction rows with
    | nil => rfl
    | cons row rest ih =>
      have room := hasRoom_columnWidths (part List.mem_cons_self)
      have cells : padCells? (columnWidths table) 0 row =
          some (paddedCells (columnWidths table) row) := padCells?_eq room fits.columnWidths_le
      rw [lines?, line?, cells, ih fun r mem => part (List.mem_cons_of_mem row mem),
        List.flatMap_cons, List.append_assoc]
      rfl
  rw [render?, all table (List.Subset.refl table)]
  rfl

/-- A cell that is too long makes its column too wide. -/
theorem fits_of_render? {s : String} (rendered : render? table = some s) : Fits table := by
  intro row mem cell cell_mem
  obtain ⟨j, j_lt, rfl⟩ := List.getElem_of_mem cell_mem
  have at_j : row[j]? = some row[j] := List.getElem?_eq_getElem j_lt
  obtain ⟨width, width_at, enough⟩ := hasRoom_columnWidths mem j row[j] at_j
  simp only [render?, Option.bind_eq_bind, Option.bind_eq_some_iff] at rendered
  obtain ⟨cs, lines, -⟩ := rendered
  obtain ⟨cells, padded⟩ := exists_padCells?_of_lines? lines mem
  exact enough.trans (width_le_of_padCells? padded j_lt (by rwa [Nat.zero_add]))

/-- The tables that are rendered are those with short cells only. -/
theorem exists_render?_iff (table : List (List String)) :
    (∃ s, render? table = some s) ↔ Fits table :=
  ⟨fun ⟨_, rendered⟩ => fits_of_render? rendered, fun fits => ⟨_, fits.render?_eq⟩⟩

/-! ## What a line shows -/

/-- Where the cells of a column end, when two spaces stand between columns. -/
def columnEnd (widths : List Nat) (column : Nat) : Nat :=
  (widths.take (column + 1)).sum + 2 * column

/-- A line shows a row if its words are the cells of the row and each cell ends where its column
does, with the cells before it on its left and those after it on its right.  The only blanks are
spaces. -/
structure Shows (widths : List Nat) (row : List String) (cs : List Char) : Prop where
  cells : words cs = row.map String.toList
  spaces : ∀ c ∈ cs, Text.isBlank c = true → c = ' '
  aligned : ∀ (j : Nat) (cell : String), row[j]? = some cell → ∃ left right,
    cs = left ++ cell.toList ++ right ∧ left.length + cell.length = columnEnd widths j ∧
      words left = (row.take j).map String.toList ∧
      words right = (row.drop (j + 1)).map String.toList

theorem length_padLeft {width : Nat} {cell : String} (enough : cell.length ≤ width) :
    (padLeft width cell.toList).length = width := by
  rw [padLeft, List.length_append, List.length_replicate, String.length_toList]
  omega

theorem spaces_padLeft (width : Nat) {cell : String} (word : IsWord cell.toList) :
    ∀ c ∈ padLeft width cell.toList, Text.isBlank c = true → c = ' ' := by
  intro c mem blank
  rcases List.mem_append.mp mem with pad | own
  · exact List.eq_of_mem_replicate pad
  · rw [word.solid c own] at blank
    cases blank

theorem words_padLeft_append (width : Nat) (cell : String) (cs : List Char) :
    words (padLeft width cell.toList ++ cs) = words (cell.toList ++ cs) := by
  rw [padLeft, List.append_assoc, Text.words_spaces_append]

variable {widths : List Nat} {width : Nat} {cell : String} {rest : List String}

/-- A row of one cell. -/
theorem shows_padLeft (word : IsWord cell.toList) (enough : cell.length ≤ width) :
    Shows (width :: widths) [cell] (padLeft width cell.toList) := by
  have padded := words_padLeft_append width cell []
  rw [List.append_nil, List.append_nil, word.words_eq] at padded
  refine ⟨padded, spaces_padLeft width word, fun j c at_j => ?_⟩
  obtain ⟨j_lt, rfl⟩ := List.getElem?_eq_some_iff.mp at_j
  obtain rfl : j = 0 := Nat.lt_one_iff.mp j_lt
  refine ⟨List.replicate (width - cell.toList.length) ' ', [], (List.append_nil _).symm, ?_, ?_,
    rfl⟩
  · rw [List.length_replicate, String.length_toList]
    simp [columnEnd, enough]
  · have blank := Text.words_spaces_append (width - cell.toList.length) []
    rwa [List.append_nil] at blank

/-- A first cell in front of a line that shows the others. -/
theorem Shows.cons {cs : List Char} (others : Shows widths rest cs) (word : IsWord cell.toList)
    (enough : cell.length ≤ width) :
    Shows (width :: widths) (cell :: rest) (padLeft width cell.toList ++ ' ' :: ' ' :: cs) := by
  -- Behind the first cell come two blanks, whatever follows.
  have front : ∀ ds : List Char, words (padLeft width cell.toList ++ ' ' :: ' ' :: ds) =
      cell.toList :: words ds := by
    intro ds
    rw [words_padLeft_append, word.words_append_blank_cons rfl, Text.words_blank_cons rfl]
  have spaces : ∀ c ∈ padLeft width cell.toList ++ ' ' :: ' ' :: cs,
      Text.isBlank c = true → c = ' ' := by
    intro c mem blank
    rcases List.mem_append.mp mem with first | later
    · exact spaces_padLeft width word c first blank
    · simp only [List.mem_cons] at later
      rcases later with rfl | rfl | own
      · rfl
      · rfl
      · exact others.spaces c own blank
  refine ⟨by rw [front, others.cells, List.map_cons], spaces, fun j c at_j => ?_⟩
  cases j with
  | zero =>
    cases at_j
    refine ⟨List.replicate (width - cell.toList.length) ' ', ' ' :: ' ' :: cs, ?_, ?_, ?_, ?_⟩
    · rw [padLeft]
    · rw [List.length_replicate, String.length_toList]
      simp [columnEnd, enough]
    · have blank := Text.words_spaces_append (width - cell.toList.length) []
      rwa [List.append_nil] at blank
    · rw [Text.words_blank_cons rfl, Text.words_blank_cons rfl]
      exact others.cells
  | succ j =>
    obtain ⟨left, right, split, ends, before, after⟩ := others.aligned j c at_j
    refine ⟨padLeft width cell.toList ++ ' ' :: ' ' :: left, right, ?_, ?_, ?_, after⟩
    · rw [split]
      simp
    · have first := length_padLeft enough
      unfold columnEnd at ends ⊢
      rw [List.length_append, List.length_cons, List.length_cons, first, List.take_succ_cons,
        List.sum_cons]
      omega
    · rw [front, before]
      rfl

/-- The padded cells of a row, with two spaces between them, show the row, and there is nothing
behind the last cell. -/
theorem shows_paddedCells (room : HasRoom widths row) (solid : ∀ cell ∈ row, IsWord cell.toList) :
    Shows widths row (List.intercalate [' ', ' '] (paddedCells widths row)) ∧
      (row ≠ [] → ∃ left cell, IsWord cell ∧
        List.intercalate [' ', ' '] (paddedCells widths row) = left ++ cell) := by
  induction row generalizing widths with
  | nil =>
    have none : paddedCells widths [] = [] := List.zipWith_nil_right
    rw [none]
    exact ⟨⟨rfl, nofun, nofun⟩, fun impossible => absurd rfl impossible⟩
  | cons cell rest ih =>
    obtain ⟨width, others, rfl, enough, later⟩ := room.cons
    have word := solid cell List.mem_cons_self
    have cells : paddedCells (width :: others) (cell :: rest) =
        padLeft width cell.toList :: paddedCells others rest := rfl
    rw [cells]
    cases rest with
    | nil =>
      have none : paddedCells others [] = [] := List.zipWith_nil_right
      rw [none, List.intercalate_singleton]
      exact ⟨shows_padLeft word enough, fun _ => ⟨_, _, word, rfl⟩⟩
    | cons next rest =>
      obtain ⟨second, others, rfl, _, _⟩ := later.cons
      obtain ⟨shown, ended⟩ := ih later fun c mem => solid c (List.mem_cons_of_mem cell mem)
      obtain ⟨left, last, last_word, split⟩ := ended (List.cons_ne_nil _ _)
      have joined : List.intercalate [' ', ' ']
          (padLeft width cell.toList :: paddedCells (second :: others) (next :: rest)) =
          padLeft width cell.toList ++ ' ' :: ' ' ::
            List.intercalate [' ', ' '] (paddedCells (second :: others) (next :: rest)) := by
        have more : paddedCells (second :: others) (next :: rest) ≠ [] := List.cons_ne_nil _ _
        rw [List.intercalate_cons_of_ne_nil more]
        simp
      rw [joined]
      refine ⟨shown.cons word enough, fun _ => ?_⟩
      refine ⟨padLeft width cell.toList ++ ' ' :: ' ' :: left, last, last_word, ?_⟩
      rw [split]
      simp

/-- The line of a row of words shows the row: nothing is dropped at its end. -/
theorem shows_line (room : HasRoom widths row) (solid : ∀ cell ∈ row, IsWord cell.toList) :
    Shows widths row (line widths row) := by
  obtain ⟨shown, ended⟩ := shows_paddedCells room solid
  have kept : line widths row = List.intercalate [' ', ' '] (paddedCells widths row) := by
    unfold line
    by_cases empty : row = []
    · subst empty
      have none : paddedCells widths [] = [] := List.zipWith_nil_right
      rw [none]
      rfl
    · obtain ⟨left, last, word, split⟩ := ended empty
      rw [split, word.trimEndChars_append]
  rw [kept]
  exact shown

/-! ## Lines of a text -/

theorem Shows.not_mem_break {cs : List Char} (shown : Shows widths row cs) : '\n' ∉ cs :=
  fun mem => absurd (shown.spaces '\n' mem rfl) (by decide)

/-- Lines that are each ended by a break are found again between the breaks, with nothing behind the
last one. -/
theorem splitOn_flatMap_line {lines : List (List Char)} (unbroken : ∀ cs ∈ lines, '\n' ∉ cs) :
    (lines.flatMap fun cs => cs ++ ['\n']).splitOn '\n' = lines ++ [[]] := by
  induction lines with
  | nil => rfl
  | cons cs rest ih =>
    have here : ∀ c ∈ cs, (c == '\n') = false := fun c mem =>
      beq_false_of_ne fun same => unbroken cs List.mem_cons_self (same ▸ mem)
    rw [List.splitOn_eq_splitOnP] at ih ⊢
    rw [List.flatMap_cons, List.append_assoc, List.singleton_append,
      List.splitOnP_append_cons_of_forall_mem here '\n' (beq_self_eq_true _),
      ih fun ds mem => unbroken ds (List.mem_cons_of_mem cs mem), List.cons_append]

/-- A table is rendered exactly if none of its cells has more than 65535 characters.  If the cells of
a rendered table are words, the text has one line for each row and shows it: its words are the cells
of the row, and each cell ends where its column does, the columns being as wide as their widest
cells. -/
theorem render?_showsRows (table : List (List String)) :
    ((∃ s, render? table = some s) ↔ ∀ row ∈ table, ∀ cell ∈ row, cell.length ≤ 65535) ∧
      ∀ s, render? table = some s → (∀ row ∈ table, ∀ cell ∈ row, IsWord cell.toList) →
        ∃ (widths : List Nat) (lines : List (List Char)),
          s.toList.splitOn '\n' = lines ++ [[]] ∧
          List.Forall₂ (Shows widths) table lines ∧
          (∀ row ∈ table, row.length ≤ widths.length) ∧
          ∀ (j width : Nat), widths[j]? = some width →
            IsGreatest {n | ∃ row ∈ table, ∃ cell, row[j]? = some cell ∧ cell.length = n}
              width := by
  refine ⟨exists_render?_iff table, fun s rendered solid => ?_⟩
  obtain rfl : text table = s :=
    Option.some.inj ((fits_of_render? rendered).render?_eq.symm.trans rendered)
  have shown : ∀ row ∈ table, Shows (columnWidths table) row (line (columnWidths table) row) :=
    fun row mem => shows_line (hasRoom_columnWidths mem) (solid row mem)
  have lines : (text table).toList =
      (table.map (line (columnWidths table))).flatMap fun cs => cs ++ ['\n'] := by
    rw [text, String.toList_ofList, List.flatMap_map]
  refine ⟨columnWidths table, table.map (line (columnWidths table)), ?_, ?_, ?_, ?_⟩
  · rw [lines]
    apply splitOn_flatMap_line
    intro cs mem
    obtain ⟨row, row_mem, rfl⟩ := List.mem_map.mp mem
    exact (shown row row_mem).not_mem_break
  · rw [List.forall₂_map_right_iff, List.forall₂_same]
    exact shown
  · intro row mem
    rw [length_columnWidths]
    exact length_le_columnCount mem
  · intro j width at_j
    obtain ⟨inside, rfl⟩ := List.getElem?_eq_some_iff.mp at_j
    have j_lt := inside.trans_eq (length_columnWidths table)
    rw [show (columnWidths table)[j] = columnWidth table j by simp [columnWidths]]
    exact columnWidth_isGreatest j_lt

/-- Rows of different lengths, one of them empty, and a cell whose characters take several bytes. -/
def ragged : List (List String) := [["Basis", "größe"], [], ["s1", "10.00", "∞"]]

theorem render?_showsRows_ragged :
    ∃ s widths lines, render? ragged = some s ∧ s.toList.splitOn '\n' = lines ++ [[]] ∧
      List.Forall₂ (Shows widths) ragged lines ∧ s = "Basis  größe\n\n   s1  10.00  ∞\n" := by
  have words : ∀ row ∈ ragged, ∀ cell ∈ row, IsWord cell.toList := by decide +kernel
  have short : ∀ row ∈ ragged, ∀ cell ∈ row, cell.length ≤ 65535 := by decide +kernel
  obtain ⟨rendered, shows⟩ := render?_showsRows ragged
  obtain ⟨s, found⟩ := rendered.mpr short
  obtain ⟨widths, lines, breaks, shown, _⟩ := shows s found words
  have text : render? ragged = some "Basis  größe\n\n   s1  10.00  ∞\n" := by decide +kernel
  exact ⟨s, widths, lines, found, breaks, shown, Option.some.inj (found.symm.trans text)⟩

/-- A word of one letter, as often as asked for. -/
def letters (n : Nat) : String := String.ofList (List.replicate n 'x')

theorem length_letters (n : Nat) : (letters n).length = n := by
  rw [letters, ← String.length_toList, String.toList_ofList, List.length_replicate]

theorem isWord_letters {n : Nat} (pos : 0 < n) : IsWord (letters n).toList := by
  rw [letters, String.toList_ofList]
  refine ⟨by simp [pos.ne'], fun c mem => ?_⟩
  rw [List.eq_of_mem_replicate mem]
  rfl

/-- A word that is too long by one character. -/
theorem render?_letters :
    (∀ row ∈ [[letters 65536]], ∀ cell ∈ row, IsWord cell.toList) ∧
      render? [[letters 65536]] = none := by
  have word : IsWord (letters 65536).toList := isWord_letters (by decide)
  refine ⟨by simp [word], Option.eq_none_iff_forall_ne_some.mpr fun s rendered => ?_⟩
  have short := fits_of_render? rendered _ List.mem_cons_self _ List.mem_cons_self
  rw [length_letters] at short
  exact absurd short (by decide)

end Table

end LinearProgram

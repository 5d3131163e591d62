import LinearProgram.Text.Blank

/-!
# Tables of text

A table is rendered with one line for each row.  Columns are aligned to the
right, two spaces stand between them, and blanks at the end of a line are
dropped.  Rows may be of different lengths; a column is as wide as the widest
cell that is present in it, counted in characters.

The width to which a cell is padded has sixteen bits.  A table with a longer cell
cannot be rendered, and neither can one in which a cell has no width at its
position; the second never happens.
-/

namespace LinearProgram.Table

/-- Length of the longest row. -/
def columnCount (table : List (List String)) : Nat :=
  (table.map List.length).foldl max 0

/-- Number of characters of the cell of a row in a column; zero if the row is too short. -/
def cellWidth (column : Nat) (row : List String) : Nat :=
  (row[column]?.map String.length).getD 0

/-- Number of characters of the widest cell in a column. -/
def columnWidth (table : List (List String)) (column : Nat) : Nat :=
  (table.map (cellWidth column)).foldl max 0

/-- Widths of all columns. -/
def columnWidths (table : List (List String)) : List Nat :=
  (List.range (columnCount table)).map (columnWidth table)

/-- A text with spaces in front of it, up to a number of characters. -/
def padLeft (width : Nat) (cs : List Char) : List Char :=
  List.replicate (width - cs.length) ' ' ++ cs

/-- A text with spaces after it, up to a number of characters. -/
def padRight (width : Nat) (cs : List Char) : List Char :=
  cs ++ List.replicate (width - cs.length) ' '

/-- The largest width that a cell can be padded to. -/
def widthLimit : Nat := 65535

/-- A cell padded to the width of its column, unless the width is too large. -/
def padCell? (width : Nat) (cell : String) : Option (List Char) :=
  if width ≤ widthLimit then some (padLeft width cell.toList) else none

/-- The padded cells of a row from a position on, each to the width of its column. -/
def padCells? (widths : List Nat) : (column : Nat) → List String → Option (List (List Char))
  | _, [] => some []
  | column, cell :: rest => do
    let width ← widths[column]?
    let padded ← padCell? width cell
    let later ← padCells? widths (column + 1) rest
    return padded :: later

/-- The line of a row, without the line break. -/
def line? (widths : List Nat) (row : List String) : Option (List Char) := do
  let cells ← padCells? widths 0 row
  return Text.trimEndChars (List.intercalate [' ', ' '] cells)

/-- The lines of some rows, each with a line break. -/
def lines? (widths : List Nat) : List (List String) → Option (List Char)
  | [] => some []
  | row :: rest => do
    let first ← line? widths row
    let later ← lines? widths rest
    return first ++ '\n' :: later

/-- The lines of a table, each with a line break. -/
def render? (table : List (List String)) : Option String := do
  let cs ← lines? (columnWidths table) table
  return String.ofList cs

end LinearProgram.Table

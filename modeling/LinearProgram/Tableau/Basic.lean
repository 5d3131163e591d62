import LinearProgram.Tableau.Layout

/-!
# Tableaux

A tableau is a list of equations in the variable columns, each with the variable
that it is solved for, and an objective row.  Every row carries an entry in the
column that marks the objective row, and a right-hand side.

Setting all other variables to zero gives each basic variable the right-hand
side of its row; this point is the basic solution of the tableau.
-/

namespace LinearProgram

/-- One row of a tableau. -/
structure Row (α : Type) : Type where
  /-- Entries in the variable columns. -/
  cells : List α
  /-- Entry in the column that marks the objective row. -/
  mark : α
  rhs : α

/-- A constraint row together with the column of its basic variable. -/
structure BasicRow (α : Type) : Type where
  basic : Nat
  row : Row α

/-- Equations with their basic variables, and an objective row. -/
structure Tableau (α : Type) : Type where
  layout : Layout
  rows : List (BasicRow α)
  objective : Row α

namespace Row

variable {α : Type} [Scalar α]

/-- Entry in a variable column; zero beyond the last one. -/
def entry (r : Row α) (column : Nat) : α := r.cells.getD column 0

/-- All entries from left to right, the right-hand side last. -/
def entries (r : Row α) : List α := r.cells ++ [r.mark, r.rhs]

/-- Every entry divided by the same value. -/
def divide (r : Row α) (x : α) : Row α :=
  ⟨r.cells.map (· / x), r.mark / x, r.rhs / x⟩

/-- A multiple of another row taken away, entry by entry. -/
def subtract (r : Row α) (factor : α) (s : Row α) : Row α :=
  ⟨List.zipWith (fun a b => a - factor * b) r.cells s.cells, r.mark - factor * s.mark,
    r.rhs - factor * s.rhs⟩

/-- Clears a column with the help of a row that has a one there.  A row that is zero in the
column is left as it is. -/
def eliminate (r : Row α) (column : Nat) (s : Row α) : Row α :=
  if r.entry column == 0 then r else r.subtract (r.entry column) s

end Row

namespace Tableau

variable {α : Type} [Scalar α]

/-- Number of constraint rows; also the position of the objective row. -/
def constraintCount (t : Tableau α) : Nat := t.rows.length

/-- Number of rows, the objective row included. -/
def rowCount (t : Tableau α) : Nat := t.constraintCount + 1

/-- All rows from top to bottom, the objective row last. -/
def allRows (t : Tableau α) : List (Row α) := t.rows.map BasicRow.row ++ [t.objective]

/-- All entries, row by row. -/
def entries (t : Tableau α) : List (List α) := t.allRows.map Row.entries

/-- Right-hand sides of all rows. -/
def rightHandSides (t : Tableau α) : List α := t.allRows.map Row.rhs

/-- The column that is basic in a constraint row. -/
def basicColumn (t : Tableau α) (row : Nat) : Option Nat := t.rows[row]?.map BasicRow.basic

/-- Names of the basic variables of all rows, the objective row last. -/
def basisNames (t : Tableau α) : List String :=
  t.rows.map (fun r => t.layout.label r.basic) ++ [objectiveLabel]

/-- The first constraint row in which a name is basic. -/
def rowOf (t : Tableau α) (name : String) : Option Nat :=
  t.rows.findIdx? fun r => t.layout.label r.basic == name

/-- The value that the basic solution gives to a variable, if it is basic. -/
def basicLevel (t : Tableau α) (column : Nat) : Option α :=
  (t.rows.find? fun r => r.basic == column).map fun r => r.row.rhs

/-- Entry of a constraint row; zero where there is none. -/
def entry (t : Tableau α) (row column : Nat) : α :=
  (t.rows[row]?.map fun r => r.row.entry column).getD 0

end Tableau

end LinearProgram

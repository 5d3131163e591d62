import Mathlib.Data.Nat.PSub
import LinearProgram.Solver.Run

/-!
# Tableaux on one matrix, with every access checked

`Tableau` keeps marks and right-hand sides apart from the cells of a row and says
by number which column is basic in it, so its operations have nothing to miss.
A `Sheet` is a tableau as it is written down: one matrix with the objective row
last and the right-hand sides in the last column, a label for each column, and
for each row the *name* of its basic variable, which has to be looked up among
the labels.  On a sheet an index can be out of range, a slice can reach beyond
the end of a row, and a name can be missing or stand for two columns.

The operations of the method are defined here entry by entry, as loops over the
positions of a row or a matrix.  Every read and write of an entry, every slice,
every copy between slices and every difference of numbers is checked; where a
check fails, the result is `none`.
-/

namespace LinearProgram

variable {α : Type}

/-! ## Checked lists -/

/-- The entries before a position, none of which may be missing. -/
def slice? (count : Nat) (xs : List α) : Option (List α) :=
  if count ≤ xs.length then some (xs.take count) else none

/-- The target with its entries before a position copied from a source, which has to have exactly
as many. -/
def copy? (count : Nat) (source target : List α) : Option (List α) :=
  if count ≤ target.length ∧ source.length = count then some (source ++ target.drop count)
  else none

/-- The number after this one, if a counter can hold it. -/
def increment? (largest n : Nat) : Option Nat := if n < largest then some (n + 1) else none

/-- A tableau as one matrix with labels and names. -/
structure Sheet (α : Type) : Type where
  /-- All rows, the objective row last, each with its mark and its right-hand side at the end. -/
  data : List (List α)
  /-- One label for each column. -/
  labels : List String
  decisions : Nat
  slacks : Nat
  artificials : Nat
  /-- Names of the basic variables of all rows, the objective row last. -/
  basis : List String

namespace Sheet

/-! ## Positions -/

section Positions

variable (t : Sheet α)

def realCount : Nat := t.decisions + t.slacks

/-- The column that marks the objective row. -/
def markColumn : Nat := t.realCount + t.artificials

def isArtificial (column : Nat) : Bool :=
  t.realCount ≤ column && column < t.realCount + t.artificials

/-- The position of the objective row, which is also the number of constraint rows. -/
def objectiveRow? : Option Nat := t.data.length.ppred

def rhsColumn? : Option Nat := t.labels.length.ppred

/-- The first column with a label. -/
def columnOf (name : String) : Option Nat := t.labels.findIdx? (· == name)

/-- The first constraint row in which a name is basic. -/
def rowOf? (name : String) : Option (Option Nat) := do
  let names ← slice? (t.basis.length - 1) t.basis
  return names.findIdx? (· == name)

end Positions

/-! ## Entries -/

def get? (t : Sheet α) (row column : Nat) : Option α := do
  let cells ← t.data[row]?
  cells[column]?

/-- The sheet with other entries in a row. -/
def setRow (t : Sheet α) (row : Nat) (cells : List α) : Sheet α :=
  { t with data := t.data.set row cells }

def set? (t : Sheet α) (row column : Nat) (x : α) : Option (Sheet α) := do
  let cells ← t.data[row]?
  if column < cells.length then return t.setRow row (cells.set column x) else none

def rhs? (t : Sheet α) (row : Nat) : Option α := do
  let column ← t.rhsColumn?
  t.get? row column

variable [Scalar α]

/-! ## The two rules -/

/-- The least value below the bound so far and where it was found, once a position has been looked
at, which may have no value. -/
def keepLeast (least : Option α × Option Nat) (i : Nat) : Option α → Option α × Option Nat
  | none => least
  | some x => if isBelow least.1 x then (some x, some i) else least

/-- Position of the least value strictly below a bound, the first of several, among the positions
before a count that have a value. -/
def scan? (bound : Option α) (count : Nat) (value : Nat → Option (Option α)) :
    Option (Option Nat) := do
  let least ← (List.range count).foldlM (fun least i => do return keepLeast least i (← value i))
    (bound, none)
  return least.2

def enteringColumn? (t : Sheet α) (withArtificials : Bool) : Option (Option Nat) := do
  let row ← t.objectiveRow?
  scan? (some 0) (if withArtificials then t.markColumn else t.realCount) fun j => do
    return some (← t.get? row j)

def leavingRow? (t : Sheet α) (column : Nat) : Option (Option Nat) := do
  let count ← t.objectiveRow?
  scan? none count fun i => do
    let x ← t.get? i column
    if 0 < x then return some ((← t.rhs? i) / x) else return none

/-! ## Row operations -/

/-- Writes a row from left to right; a new entry may depend on the sheet as it is by then. -/
def writeRow? (row : Nat) (entry : Sheet α → Nat → Option α) (t : Sheet α) : Option (Sheet α) :=
  (List.range t.labels.length).foldlM (fun t j => do t.set? row j (← entry t j)) t

def divideRow? (row : Nat) (x : α) : Sheet α → Option (Sheet α) :=
  writeRow? row fun t j => do return (← t.get? row j) / x

/-- Takes a multiple of a row away from another one. -/
def subtractRow? (row : Nat) (factor : α) (other : Nat) : Sheet α → Option (Sheet α) :=
  writeRow? row fun t j => do return (← t.get? row j) - factor * (← t.get? other j)

/-- Clears a column in a row with the help of a row that has a one there. -/
def eliminateRow? (row other column : Nat) (t : Sheet α) : Option (Sheet α) := do
  let factor ← t.get? row column
  if factor == 0 then return t else t.subtractRow? row factor other

/-- Makes a column basic in a row. -/
def pivot? (t : Sheet α) (row column : Nat) : Option (Sheet α) := do
  let element ← t.get? row column
  let divided ← t.divideRow? row element
  let cleared ← (List.range t.data.length).foldlM
    (fun t i => if i = row then some t else t.eliminateRow? i row column) divided
  let _ ← cleared.basis[row]?
  let name ← cleared.labels[column]?
  return { cleared with basis := cleared.basis.set row name }

/-- Sets the right-hand side of a row to zero. -/
def clearRhs? (t : Sheet α) (row : Nat) : Option (Sheet α) := do
  let column ← t.rhsColumn?
  t.set? row column 0

/-- Replaces the objective row by the given entries in the variable columns and clears the basic
columns in it.  A row whose name is no label is passed by. -/
def loadObjective? (t : Sheet α) (costs : List α) : Option (Sheet α) := do
  let row ← t.objectiveRow?
  let old ← t.data[row]?
  let cells ← copy? costs.length costs (zeros old.length)
  let loaded ← (t.setRow row cells).set? row t.markColumn 1
  (List.range row).foldlM (fun t i =>
    match t.basis[i]?.bind t.columnOf with
    | none => some t
    | some column => t.eliminateRow? row i column) loaded

end Sheet

end LinearProgram

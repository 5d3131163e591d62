import LinearProgram.Tableau.Basic

/-!
# Pivoting

The rules that choose a pivot and the operations that carry it out.

* `Tableau.enteringColumn` takes the column with the most negative entry in the
  objective row, the leftmost of several.
* `Tableau.leavingRow` takes the row with the least ratio of right-hand side to
  positive entry, the highest of several.
* `Tableau.pivot` solves the chosen row for the chosen column and clears the
  column in all other rows.
* `Tableau.loadObjective` replaces the objective row and clears its entries in
  the basic columns.

Both rules are one scan, `leastIndex`, over a list of candidates.
-/

namespace LinearProgram

variable {α : Type} [Scalar α]

/-- Whether a value is strictly below a bound, where no bound means positive infinity. -/
def isBelow (bound : Option α) (x : α) : Bool :=
  match bound with
  | none => Scalar.belowInfinity x
  | some b => x < b

/-- Scans candidates from a position on, given the least value so far and where it was found. -/
def leastIndexFrom (position : Nat) (bound : Option α) (found : Option Nat) :
    List (Option α) → Option Nat
  | [] => found
  | none :: rest => leastIndexFrom (position + 1) bound found rest
  | some x :: rest =>
    if isBelow bound x then leastIndexFrom (position + 1) (some x) (some position) rest
    else leastIndexFrom (position + 1) bound found rest

/-- Position of the least candidate that is strictly below a bound, the first of several. -/
def leastIndex (bound : Option α) (candidates : List (Option α)) : Option Nat :=
  leastIndexFrom 0 bound none candidates

namespace Tableau

/-- The column that enters the basis: the most negative entry of the objective row, leftmost on
ties.  Artificial columns take part only on demand. -/
def enteringColumn (t : Tableau α) (withArtificials : Bool) : Option Nat :=
  let last := if withArtificials then t.layout.width else t.layout.realCount
  leastIndex (some 0) ((t.objective.cells.take last).map some)

/-- The ratio of right-hand side to entry in a column, for a positive entry only. -/
def ratio (column : Nat) (r : BasicRow α) : Option α :=
  if 0 < r.row.entry column then some (r.row.rhs / r.row.entry column) else none

/-- The row whose basic variable leaves the basis: the least ratio, highest row on ties. -/
def leavingRow (t : Tableau α) (column : Nat) : Option Nat :=
  leastIndex none (t.rows.map (ratio column))

/-- Makes a column basic in a row: the row is divided by its entry there, and the column is
cleared in every other row. -/
def pivot (t : Tableau α) (row column : Nat) : Tableau α :=
  match t.rows[row]? with
  | none => t
  | some r =>
    let solved := r.row.divide (r.row.entry column)
    { t with
      rows := t.rows.mapIdx fun i s =>
        if i = row then ⟨column, solved⟩ else ⟨s.basic, s.row.eliminate column solved⟩
      objective := t.objective.eliminate column solved }

/-- Sets the right-hand side of a constraint row to zero. -/
def clearRhs (t : Tableau α) (row : Nat) : Tableau α :=
  { t with rows := t.rows.modify row fun r => { r with row := { r.row with rhs := 0 } } }

/-- Replaces the objective row by the given entries in the variable columns and clears the basic
columns in it, from the first row to the last. -/
def loadObjective (t : Tableau α) (costs : List α) : Tableau α :=
  { t with
    objective := t.rows.foldl (fun objective r => objective.eliminate r.basic r.row)
      ⟨costs, 1, 0⟩ }

/-- The objective row entries whose value is minus the sum of the artificial variables. -/
def artificialCosts (l : Layout) : List α :=
  List.replicate l.realCount 0 ++ List.replicate l.artificials 1

end Tableau

end LinearProgram

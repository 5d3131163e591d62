import LinearProgram.Problem.Fault

/-!
# Columns of a tableau

The columns of a tableau stand in a fixed order: the decision variables, the
slack and surplus variables `s1, s2, …`, the artificial variables `a1, a2, …`,
the column that marks the objective row, and the right-hand sides.  The first
three groups are the variable columns.  The slack columns and everything before
them are the real columns: they belong to the problem, while the artificial ones
only serve to find a first point.
-/

namespace LinearProgram

/-- The columns of a tableau. -/
structure Layout : Type where
  /-- Names of the decision variables. -/
  names : List String
  /-- Number of slack and surplus columns. -/
  slacks : Nat
  /-- Number of artificial columns. -/
  artificials : Nat
deriving DecidableEq

namespace Layout

/-- Label of the slack or surplus column at a position of its group. -/
def slackLabel (index : Nat) : String := "s" ++ toString (index + 1)

/-- Label of the artificial column at a position of its group. -/
def artificialLabel (index : Nat) : String := "a" ++ toString (index + 1)

/-- Labels of all columns, from left to right. -/
def labels (l : Layout) : List String :=
  l.names ++ (List.range l.slacks).map slackLabel ++
    (List.range l.artificials).map artificialLabel ++ [objectiveLabel, rhsLabel]

def decisionCount (l : Layout) : Nat := l.names.length

/-- Number of decision and slack columns. -/
def realCount (l : Layout) : Nat := l.decisionCount + l.slacks

/-- Number of variable columns. -/
def width (l : Layout) : Nat := l.realCount + l.artificials

/-- Number of all columns. -/
def columnCount (l : Layout) : Nat := l.width + 2

/-- The column that marks the objective row. -/
def objectiveColumn (l : Layout) : Nat := l.width

/-- The column of right-hand sides. -/
def rhsColumn (l : Layout) : Nat := l.width + 1

/-- The column of the slack or surplus variable at a position of its group. -/
def slackColumn (l : Layout) (index : Nat) : Nat := l.decisionCount + index

/-- The column of the artificial variable at a position of its group. -/
def artificialColumn (l : Layout) (index : Nat) : Nat := l.realCount + index

/-- Whether a column belongs to an artificial variable. -/
def isArtificial (l : Layout) (column : Nat) : Bool :=
  l.realCount ≤ column && column < l.width

/-- Label of a column; empty beyond the last one. -/
def label (l : Layout) (column : Nat) : String := l.labels.getD column ""

/-- The first column with a label. -/
def columnOf (l : Layout) (name : String) : Option Nat := l.labels.findIdx? (· == name)

end Layout

end LinearProgram

import LinearProgram.Text.Blank
import LinearProgram.Text.Quoted

/-!
# Relations of a constraint

A constraint bounds a linear form from above, from below, or on both sides.
Each relation has one symbol, and is read from nine spellings, with blank
characters around them ignored.
-/

namespace LinearProgram

/-- How the left-hand side of a constraint compares with its right-hand side. -/
inductive Relation : Type where
  /-- At most. -/
  | le
  /-- At least. -/
  | ge
  /-- Equal. -/
  | eq
deriving DecidableEq

/-- A text that spells no relation, without the blanks around it. -/
structure UnknownRelation : Type where
  text : String
deriving DecidableEq

/-- What is said about a text that spells no relation. -/
def UnknownRelation.message (e : UnknownRelation) : String :=
  "unknown constraint operator: " ++ Text.quoted e.text ++ " (expected <=, >= or =)"

namespace Relation

/-- The symbol under which a relation is written. -/
def symbol : Relation → String
  | le => "<="
  | ge => ">="
  | eq => "="

/-- The relation that results from multiplying both sides by `-1`. -/
def flip : Relation → Relation
  | le => ge
  | ge => le
  | eq => eq

/-- The relation with exactly this symbol. -/
def ofSymbol? (s : String) : Option Relation :=
  if s = "<=" then some le
  else if s = ">=" then some ge
  else if s = "=" then some eq
  else none

/-- The relation spelled by a text without blanks around it. -/
def ofSpelling? (s : String) : Option Relation :=
  if s = "<=" ∨ s = "≤" ∨ s = "le" then some le
  else if s = ">=" ∨ s = "≥" ∨ s = "ge" then some ge
  else if s = "=" ∨ s = "==" ∨ s = "eq" then some eq
  else none

/-- Reads a relation from one of its spellings; blanks around it do not matter. -/
def parse (s : String) : Except UnknownRelation Relation :=
  match ofSpelling? (Text.trim s) with
  | some r => .ok r
  | none => .error ⟨Text.trim s⟩

end Relation

end LinearProgram

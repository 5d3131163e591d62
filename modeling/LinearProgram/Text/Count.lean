/-!
# Counts written as text

A count is a whole number below `2 ^ 64`.  It is read from digits of a base, and
from decimal text with a plus sign in front if there is one.
-/

namespace LinearProgram

/-- The first whole number that is too large for a count. -/
def sizeLimit : Nat := Nat.pow 2 64

namespace Text

/-- The value of a hexadecimal digit. -/
def hexValue? (c : Char) : Option Nat :=
  if '0' ≤ c ∧ c ≤ '9' then some (c.toNat - 48)
  else if 'a' ≤ c ∧ c ≤ 'f' then some (c.toNat - 87)
  else if 'A' ≤ c ∧ c ≤ 'F' then some (c.toNat - 55)
  else none

/-- The value of a digit in a base of at most sixteen. -/
def digitValue? (base : Nat) (c : Char) : Option Nat :=
  (hexValue? c).bind fun d => if d < base then some d else none

/-- The number that digits write in a base of at most sixteen. -/
def natOfDigits? (base : Nat) (digits : List Char) : Option Nat :=
  digits.foldlM (fun n c => (digitValue? base c).map (base * n + ·)) 0

/-- The count that digits write in a base of at most sixteen.  There is at least one digit. -/
def countOfDigits? (base : Nat) (digits : List Char) : Option Nat := do
  if digits.isEmpty then none
  let n ← natOfDigits? base digits
  if n < sizeLimit then some n else none

/-- A decimal count, possibly with a plus sign. -/
def count? (s : String) : Option Nat :=
  match s.toList with
  | '+' :: digits => countOfDigits? 10 digits
  | digits => countOfDigits? 10 digits

end Text

end LinearProgram

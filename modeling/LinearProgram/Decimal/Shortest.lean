import LinearProgram.Decimal.Binary
import LinearProgram.Decimal.Numeral

/-!
# The shortest decimal of a floating-point value

Many decimal numbers are nearest to the same floating-point value.  The shortest
of them is found by going through the powers of ten from above: on the first
whose multiples hit the interval of numbers that round to the value, one of the
two multiples next to the value is taken, and of two the nearer one.
-/

namespace LinearProgram

/-- A positive number in units of a power of ten. -/
structure Decimal : Type where
  units : Nat
  exponent : Int
deriving DecidableEq

/-- Which of two equally near numbers is taken. -/
inductive Tie : Type where
  /-- The one with an even last digit. -/
  | toEven
  /-- The larger one. -/
  | up
deriving DecidableEq

/-- Whether the lower of two equally near neighbours is taken. -/
def Tie.takesLower : Tie → Nat → Bool
  | toEven, lower => lower % 2 == 0
  | up, _ => false

namespace Decimal

/-- The numbers that round to a positive value, in quarters of the value's last binary place.
The spacing below a power of two is half of that above it. -/
structure Interval : Type where
  low : Nat
  value : Nat
  high : Nat
  /-- Whether the ends round to the value too. -/
  closed : Bool
  /-- The power of two of the quarters. -/
  exponent : Int

/-- The numbers that round to a mantissa times a power of two. -/
def Interval.around (mantissa : Nat) (exponent : Int) : Interval :=
  let below :=
    if mantissa = Binary.leastMantissa ∧ Binary.leastExponent < exponent then 1 else 2
  ⟨4 * mantissa - below, 4 * mantissa, 4 * mantissa + 2, mantissa % 2 == 0, exponent - 2⟩

/-- Compares within an interval, the end counting only if it is closed. -/
def Interval.orders (i : Interval) (a b : Nat) : Bool := a < b || (i.closed && a == b)

/-- The nearest multiple of a power of ten in an interval that is next to the value, if any.
Both sides of each comparison are brought to whole numbers. -/
def Interval.hit? (i : Interval) (tie : Tie) (exponent : Int) : Option Nat :=
  let grid := Numeral.tenTo exponent.toNat * Binary.twoTo (-i.exponent).toNat
  let quarter := Binary.twoTo i.exponent.toNat * Numeral.tenTo (-exponent).toNat
  let lower := i.value * quarter / grid
  let lowerFits := i.orders (i.low * quarter) (lower * grid)
  let upperFits := i.orders ((lower + 1) * grid) (i.high * quarter)
  if lowerFits && upperFits then
    let twice := 2 * i.value * quarter
    let middle := (2 * lower + 1) * grid
    if twice < middle || (twice == middle && tie.takesLower lower) then some lower
    else some (lower + 1)
  else if lowerFits then some lower
  else if upperFits then some (lower + 1)
  else none

/-- Tries one power of ten after the other, going down. -/
def Interval.search (i : Interval) (tie : Tie) : (tries : Nat) → (exponent : Int) → Decimal
  | 0, exponent => ⟨i.value, exponent⟩
  | tries + 1, exponent =>
    match i.hit? tie exponent with
    | some units => ⟨units, exponent⟩
    | none => i.search tie tries (exponent - 1)

/-- An exponent whose power of ten is above a positive value: one binary place is at most
0.30103 decimal places. -/
def exponentAbove (mantissa : Nat) (exponent : Int) : Int :=
  ((mantissa.log2 + 1 + exponent) * 30103).fdiv 100000 + 2

/-- The decimal with the fewest digits that rounds to a positive value.  Seventeen digits always
suffice, and the search begins at most three places above the first of them. -/
def shortest (tie : Tie) (mantissa : Nat) (exponent : Int) : Decimal :=
  (Interval.around mantissa exponent).search tie 24 (exponentAbove mantissa exponent)

end Decimal

end LinearProgram

/-!
# Scalars

The tableau method needs addition, subtraction, multiplication, division,
negation and comparison, and nothing else.  `Scalar` names these operations
without laws, so that one definition of the method serves two purposes: over
`Float` it is the program that runs, rounding after every operation and
overflowing to infinities, and over `Rat` it is the exact method.

Facts that hold whatever the arithmetic does are stated over an arbitrary
`Scalar`; facts of linear algebra are stated over `Rat`.
-/

namespace LinearProgram

/-- The arithmetic that the tableau method runs on: operations without laws. -/
class Scalar (α : Type) extends Add α, Sub α, Mul α, Div α, Neg α, Zero α, One α, LT α, BEq α,
    OfScientific α where
  /-- Comparison is decidable. -/
  decidableLT : DecidableLT α
  /-- Whether a value is a number, neither infinite nor undefined. -/
  isFinite : α → Bool
  /-- Whether a value lies strictly below positive infinity.  An undefined value does not. -/
  belowInfinity : α → Bool

attribute [reducible, instance] Scalar.decidableLT

namespace Scalar

variable {α : Type} [Scalar α]

/-- Magnitude of a value.  Zeros and undefined values are returned unchanged. -/
def abs (x : α) : α := if x < 0 then -x else x

/-- The larger of two values; the first one when they cannot be compared. -/
def max (x y : α) : α := if x < y then y else x

end Scalar

/-- Binary floating point: every operation is rounded once. -/
instance : Scalar Float where
  zero := 0.0
  one := 1.0
  decidableLT := inferInstance
  isFinite := Float.isFinite
  belowInfinity x := x < 1.0 / 0.0

/-- Exact arithmetic, in which every value is finite. -/
instance : Scalar Rat where
  toAdd := Rat.instAdd
  toSub := Rat.instSub
  toMul := Rat.instMul
  toDiv := Rat.instDiv
  toNeg := Rat.instNeg
  toZero := @Zero.ofOfNat0 Rat Rat.instOfNat
  toOne := @One.ofOfNat1 Rat Rat.instOfNat
  toLT := Rat.instLT
  toBEq := @instBEqOfDecidableEq Rat instDecidableEqRat
  toOfScientific := Rat.instOfScientific
  decidableLT := Rat.instDecidableLt
  isFinite _ := true
  belowInfinity _ := true

end LinearProgram

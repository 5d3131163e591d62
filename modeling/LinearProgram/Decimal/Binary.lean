/-!
# The number behind a floating-point value

A finite floating-point value is a whole number times a power of two.  Reading it
as such makes its decimal texts a matter of exact arithmetic.
-/

namespace LinearProgram

/-- What a floating-point value stands for. -/
inductive Binary : Type where
  /-- No number at all. -/
  | undefined
  | infinite (negative : Bool)
  /-- The mantissa times two to the exponent, with a sign. -/
  | finite (negative : Bool) (mantissa : Nat) (exponent : Int)
deriving DecidableEq

namespace Binary

/-- The least exponent of a finite value. -/
def leastExponent : Int := -1074

/-- A power of two. -/
def twoTo (n : Nat) : Nat := Nat.pow 2 n

/-- The least mantissa of a value whose exponent is above the least. -/
def leastMantissa : Nat := twoTo 52

/-- Reads the sixty-four bits of a value: one for the sign, eleven for the exponent, the rest
for the mantissa. -/
def ofBits (bits : UInt64) : Binary :=
  let n := bits.toNat
  let negative := decide (twoTo 63 ≤ n)
  let exponent : Nat := n / twoTo 52 % twoTo 11
  let mantissa : Nat := n % twoTo 52
  if exponent = twoTo 11 - 1 then
    if mantissa = 0 then infinite negative else undefined
  else if exponent = 0 then finite negative mantissa leastExponent
  else finite negative (leastMantissa + mantissa) (leastExponent + exponent - 1)

/-- What a floating-point value stands for. -/
def ofFloat (x : Float) : Binary := ofBits x.toBits

end Binary

end LinearProgram

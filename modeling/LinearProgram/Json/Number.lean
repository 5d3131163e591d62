import LinearProgram.Decimal.Style
import LinearProgram.Json.Value
import LinearProgram.Text.Count

/-!
# Numbers in JSON

A floating-point value is written with its shortest decimal.  There is no
numeral for an infinity or an undefined value, and `null` is written instead.

A numeral is read as a floating-point value in two steps, each of which rounds
at most once.  Its digits are collected in a whole number below `2 ^ 64`; digits
that would exceed it are dropped.  This number is then multiplied or divided by
a power of ten.  The result is the nearest value if neither step rounds, and
otherwise it may be a neighbour of it.
-/

namespace LinearProgram

/-- Numbers in JSON: a power of ten below a hundred-thousandth and from ten to the sixteenth on,
with a sign, and a point in every number without one. -/
def jsonStyle : NumberStyle :=
  { tie := .toEven, positional := fun e => -5 ≤ e && e < 16, pointZero := true, plus := true }

/-- A floating-point value in JSON. -/
def Json.ofFloat (x : Float) : Json :=
  match Binary.ofFloat x with
  | .finite negative mantissa exponent => .number (jsonStyle.numeral negative mantissa exponent)
  | _ => .null

namespace Numeral

/-- Appends digits to a whole number as long as it stays below the limit.  Returns it together
with the number of digits that were dropped. -/
def collect (n : Nat) : List Digit → Nat × Nat
  | [] => (n, 0)
  | d :: ds => if 10 * n + d.val < sizeLimit then collect (10 * n + d.val) ds else (n, ds.length + 1)

/-- The digits of a whole number, the first one first. -/
def wholeDigits (n : Nat) : List Digit := (natChars n).filterMap Digit.ofChar?

/-- A power of ten as a floating-point value. -/
def powerOfTen (e : Nat) : Float := Float.ofScientific 1 false e

/-- The largest power of ten that is a finite floating-point value. -/
def largestPower : Nat := 308

/-- Multiplies by a power of ten.  There is no result if it overflows. -/
def scaleUp? (x : Float) (e : Nat) : Option Float :=
  if e ≤ largestPower then
    let y := x * powerOfTen e
    if y.isInf then none else some y
  else if x == 0 then some x
  else none

/-- Divides by a power of ten, in steps if it is large. -/
def scaleDown (x : Float) (e : Nat) : Float :=
  if e ≤ largestPower then x / powerOfTen e
  else if x == 0 then x
  else scaleDown (x / powerOfTen largestPower) (e - largestPower)
termination_by e
decreasing_by simp_all [largestPower]; omega

/-- The floating-point value of a numeral, unless it overflows. -/
def toFloat? (n : Numeral) : Option Float :=
  let (whole, droppedBefore) := collect 0 (wholeDigits n.whole)
  let (digits, droppedAfter) := collect whole n.fraction
  let exponent : Int :=
    n.exponent.getD 0 + droppedBefore - (n.fraction.length - droppedAfter : Nat)
  let magnitude? :=
    if 0 ≤ exponent then scaleUp? (Float.ofNat digits) exponent.toNat
    else some (scaleDown (Float.ofNat digits) (-exponent).toNat)
  magnitude?.map fun x => if n.negative then -x else x

/-- The count that a numeral writes: a whole number below `2 ^ 64`, without sign, point and power
of ten. -/
def toSize? (n : Numeral) : Option Nat :=
  if !n.negative && n.fraction.isEmpty && n.exponent.isNone && n.whole < sizeLimit then
    some n.whole
  else none

end Numeral

end LinearProgram

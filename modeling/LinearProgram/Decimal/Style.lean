import LinearProgram.Decimal.Numeral
import LinearProgram.Decimal.Shortest

/-!
# Texts of floating-point values

A value is written either with its shortest decimal or with a fixed number of
places.  For the shortest decimal a style says when a power of ten is written
instead of zeros, and how.  For fixed places the exact value is rounded, and a
value in the middle goes to the even last digit.
-/

namespace LinearProgram

/-- How a shortest decimal is written. -/
structure NumberStyle : Type where
  /-- Which of two equally near shortest decimals is written. -/
  tie : Tie
  /-- Whether zeros are written instead of a power of ten, given the power of the first digit. -/
  positional : Int → Bool
  /-- Whether a whole number gets the digit zero after a point. -/
  pointZero : Bool
  /-- Whether a positive power of ten gets a sign. -/
  plus : Bool

/-- What is written for a value that is no number. -/
def undefinedText : String := "NaN"

/-- What is written for an infinity. -/
def infinityText (negative : Bool) : String := if negative then "-inf" else "inf"

namespace Decimal

/-- Number of digits. -/
def length (d : Decimal) : Nat := (Numeral.natChars d.units).length

/-- The power of ten of the first digit. -/
def leadExponent (d : Decimal) : Int := d.exponent + d.length - 1

/-- The digit zero after the point, if the style asks for it. -/
def zeroFraction (pointZero : Bool) : List Digit := if pointZero then [Digit.zero] else []

/-- A decimal written with zeros in place of a power of ten. -/
def positional (pointZero negative : Bool) (d : Decimal) : Numeral :=
  if 0 ≤ d.exponent then
    ⟨negative, d.units * Numeral.tenTo d.exponent.toNat, zeroFraction pointZero, none⟩
  else Numeral.ofUnits negative (-d.exponent).toNat d.units

/-- A decimal written with one digit before the point and a power of ten. -/
def scientific (negative : Bool) (d : Decimal) : Numeral :=
  { Numeral.ofUnits negative (d.length - 1) d.units with exponent := some d.leadExponent }

end Decimal

namespace NumberStyle

/-- The numeral of a finite value. -/
def numeral (style : NumberStyle) (negative : Bool) (mantissa : Nat) (exponent : Int) : Numeral :=
  if mantissa = 0 then ⟨negative, 0, Decimal.zeroFraction style.pointZero, none⟩
  else
    let d := Decimal.shortest style.tie mantissa exponent
    if style.positional d.leadExponent then d.positional style.pointZero negative
    else d.scientific negative

/-- The text of a value. -/
def text (style : NumberStyle) (x : Float) : String :=
  match Binary.ofFloat x with
  | .undefined => undefinedText
  | .infinite negative => infinityText negative
  | .finite negative mantissa exponent =>
    (style.numeral negative mantissa exponent).text style.plus

end NumberStyle

/-- A quotient rounded to the nearest whole number, from the middle to the even one. -/
def roundToEven (num den : Nat) : Nat :=
  let quotient := num / den
  let twice := 2 * (num % den)
  if twice < den || (twice == den && quotient % 2 == 0) then quotient else quotient + 1

/-- The text of a value with a fixed number of places after the point. -/
def fixedText (places : Nat) (x : Float) : String :=
  match Binary.ofFloat x with
  | .undefined => undefinedText
  | .infinite negative => infinityText negative
  | .finite negative mantissa exponent =>
    let units :=
      roundToEven (mantissa * Binary.twoTo exponent.toNat * Numeral.tenTo places)
        (Binary.twoTo (-exponent).toNat)
    (Numeral.ofUnits negative places units).text false

/-- Numbers in messages: no power of ten, and whole numbers without a point. -/
def messageStyle : NumberStyle :=
  { tie := .up, positional := fun _ => true, pointZero := false, plus := false }

/-- Numbers in log lines: a power of ten below a ten-thousandth and from ten to the sixteenth on,
and a point in every number without one. -/
def logStyle : NumberStyle :=
  { tie := .up, positional := fun e => -4 ≤ e && e < 16, pointZero := true, plus := false }

end LinearProgram

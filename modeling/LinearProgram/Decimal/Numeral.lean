/-!
# Written decimal numbers

A numeral is a decimal number as it is written: a sign, a whole part, digits
after the point, and possibly a power of ten.  `1.50` and `1.5` are different
numerals of one number.
-/

namespace LinearProgram

/-- A decimal digit. -/
abbrev Digit : Type := Fin 10

/-- A decimal number as it is written. -/
structure Numeral : Type where
  negative : Bool
  /-- The digits before the point, without leading zeros. -/
  whole : Nat
  /-- The digits after the point; no point is written when there are none. -/
  fraction : List Digit
  /-- The power of ten, if one is written. -/
  exponent : Option Int
deriving DecidableEq

namespace Digit

/-- The digit zero. -/
def zero : Digit := ⟨0, by decide⟩

/-- The character of a digit. -/
def toChar (d : Digit) : Char := Char.ofNat (48 + d.val)

/-- The digit of a character. -/
def ofChar? (c : Char) : Option Digit :=
  if c.isDigit then some (Fin.ofNat 10 (c.toNat - 48)) else none

/-- The last digits of a number, as many as asked for, put before other digits. -/
def lastDigits (count n : Nat) (after : List Digit) : List Digit :=
  match count with
  | 0 => after
  | count + 1 => lastDigits count (n / 10) (Fin.ofNat 10 (n % 10) :: after)

end Digit

namespace Numeral

/-- The characters of a whole number. -/
def natChars (n : Nat) : List Char := Nat.toDigits 10 n

/-- The characters of a power of ten.  The sign of a positive one is written on demand. -/
def exponentChars (plus : Bool) (e : Int) : List Char :=
  'e' :: (if e < 0 then ['-'] else if plus then ['+'] else []) ++ natChars e.natAbs

/-- The characters of a numeral. -/
def chars (plus : Bool) (n : Numeral) : List Char :=
  (if n.negative then ['-'] else []) ++ natChars n.whole ++
    (if n.fraction.isEmpty then [] else '.' :: n.fraction.map Digit.toChar) ++
    (n.exponent.map (exponentChars plus)).getD []

/-- The text of a numeral. -/
def text (plus : Bool) (n : Numeral) : String := String.ofList (n.chars plus)

/-- A power of ten. -/
def tenTo (n : Nat) : Nat := Nat.pow 10 n

/-- A whole number. -/
def ofNat (n : Nat) : Numeral := ⟨false, n, [], none⟩

/-- A number given in units of a power of one tenth. -/
def ofUnits (negative : Bool) (places units : Nat) : Numeral :=
  ⟨negative, units / tenTo places, Digit.lastDigits places units [], none⟩

end Numeral

end LinearProgram

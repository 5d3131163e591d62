import LinearProgram.Decimal.Numeral

/-!
# JSON values

A JSON value keeps what a text says and nothing is normalised: numbers are
numerals, and the fields of an object stand in their order and may repeat a key.

A string literal may name half of a surrogate pair by an escape.  Such a literal
is well formed, but there is no text that it denotes; it is kept as `none`.
-/

namespace LinearProgram

/-- A JSON value. -/
inductive Json : Type where
  | null
  | bool (value : Bool)
  | number (numeral : Numeral)
  /-- A string literal with the text that it denotes, if any. -/
  | string (text : Option String)
  | array (items : List Json)
  | object (fields : List (Option String × Json))

namespace Json

/-- The string of a text. -/
def ofText (s : String) : Json := string (some s)

/-- The number of a count. -/
def ofNat (n : Nat) : Json := number (Numeral.ofNat n)

/-- The array of texts. -/
def ofTexts (texts : List String) : Json := array (texts.map ofText)

/-- An object from keys and values. -/
def ofFields (fields : List (String × Json)) : Json :=
  object (fields.map fun f => (some f.1, f.2))

/-- A value that may be missing; `null` stands for a missing one. -/
def ofOption {α : Type} (encode : α → Json) : Option α → Json
  | none => null
  | some x => encode x

end Json

end LinearProgram

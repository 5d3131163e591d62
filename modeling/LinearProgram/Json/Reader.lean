import LinearProgram.Json.Token

/-!
# Reading JSON

Tokens are put together to values by a machine with a stack of the arrays and
objects that are still open.  Values may be nested to any depth.
-/

namespace LinearProgram.Json

/-- An array or object that is still open, with its complete parts, the last one first. -/
inductive Frame : Type where
  | array (items : List Json)
  /-- An object that waits for the value of a key. -/
  | object (fields : List (Option String × Json)) (key : Option String)

/-- What the machine expects next, and what is open around it, the innermost first. -/
inductive Place : Type where
  /-- A value. -/
  | value (outer : List Frame)
  /-- The first item of an array, or its end. -/
  | firstItem (outer : List Frame)
  /-- The first key of an object, or its end. -/
  | firstKey (outer : List Frame)
  /-- A further key of an object. -/
  | key (outer : List Frame) (fields : List (Option String × Json))
  /-- The colon after a key. -/
  | colon (outer : List Frame) (fields : List (Option String × Json)) (key : Option String)
  /-- What may follow a complete value. -/
  | after (outer : List Frame) (value : Json)

namespace Place

/-- Begins a value. -/
def enter (outer : List Frame) : Token → Option Place
  | .null => some (after outer .null)
  | .bool b => some (after outer (.bool b))
  | .number n => some (after outer (.number n))
  | .string s => some (after outer (.string s))
  | .openArray => some (firstItem outer)
  | .openObject => some (firstKey outer)
  | _ => none

/-- Continues or closes what is open around a complete value. -/
def leave (value : Json) : List Frame → Token → Option Place
  | .array items :: outer, .comma => some (.value (.array (value :: items) :: outer))
  | .array items :: outer, .closeArray => some (after outer (.array (value :: items).reverse))
  | .object fields k :: outer, .comma => some (key outer ((k, value) :: fields))
  | .object fields k :: outer, .closeObject =>
    some (after outer (.object ((k, value) :: fields).reverse))
  | _, _ => none

/-- Reads one token. -/
def step : Place → Token → Option Place
  | value outer, t => enter outer t
  | firstItem outer, .closeArray => some (after outer (.array []))
  | firstItem outer, t => enter (.array [] :: outer) t
  | firstKey outer, .closeObject => some (after outer (.object []))
  | firstKey outer, .string k => some (colon outer [] k)
  | key outer fields, .string k => some (colon outer fields k)
  | colon outer fields k, .colon => some (value (.object fields k :: outer))
  | after outer v, t => leave v outer t
  | _, _ => none

/-- The value that has been read when nothing is open any more. -/
def result? : Place → Option Json
  | after [] v => some v
  | _ => none

end Place

/-- The value that tokens write. -/
def ofTokens? (tokens : List Token) : Option Json := do
  let place ← tokens.foldlM Place.step (Place.value [])
  place.result?

/-- Reads the characters of a value; blanks around it do not matter. -/
def ofChars? (cs : List Char) : Option Json := do
  ofTokens? (← tokens? cs)

/-- Reads a value. -/
def parse? (s : String) : Option Json := ofChars? s.toList

end LinearProgram.Json

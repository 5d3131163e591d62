import LinearProgram.Json.Number
import LinearProgram.Json.Reader

/-!
# Decoding JSON values

A record is written as an object, in which unknown keys are ignored and known
ones must not repeat, or as the array of its fields in order, in which fields at
the end may be left out.  Whether a missing field has a default is up to the
record.  One of several words is written as a string, or as an object with the
word as its only key and `null` as its value.
-/

namespace LinearProgram.Json

/-- The value of a key, if it occurs once; no result if it repeats. -/
def field? (fields : List (Option String × Json)) (name : String) : Option (Option Json) :=
  match fields.filter fun f => f.1 == some name with
  | [] => some none
  | [f] => some (some f.2)
  | _ => none

/-- The fields of a record with the given names, in their order.  A missing field is `none`. -/
def record? (names : List String) : Json → Option (List (Option Json))
  | object fields => if fields.any (·.1.isNone) then none else names.mapM (field? fields)
  | array items =>
    if items.length ≤ names.length then
      some (items.map some ++ List.replicate (names.length - items.length) none)
    else none
  | _ => none

/-- A floating-point value. -/
def float? : Json → Option Float
  | number n => n.toFloat?
  | _ => none

/-- A count. -/
def size? : Json → Option Nat
  | number n => n.toSize?
  | _ => none

/-- A text. -/
def text? : Json → Option String
  | string s => s
  | _ => none

/-- A list of values. -/
def list? {α : Type} (item? : Json → Option α) : Json → Option (List α)
  | array items => items.mapM item?
  | _ => none

/-- A value, or `null` for a missing one. -/
def nullable? {α : Type} (value? : Json → Option α) : Json → Option (Option α)
  | null => some none
  | v => (value? v).map some

/-- One of several words. -/
def word? {α : Type} (ofWord? : String → Option α) : Json → Option α
  | string (some w) => ofWord? w
  | object [(some w, null)] => ofWord? w
  | _ => none

/-- A field that must not be missing. -/
def required? {α : Type} (value? : Json → Option α) (field : Option Json) : Option α :=
  field.bind value?

/-- A field with a default. -/
def defaulted? {α : Type} (value? : Json → Option α) (default : α) (field : Option Json) :
    Option α :=
  match field with
  | none => some default
  | some v => value? v

end LinearProgram.Json

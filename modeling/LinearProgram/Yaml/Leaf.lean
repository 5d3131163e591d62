import LinearProgram.Yaml.Tag

/-!
# Single values of a YAML document

A single value is a text with the way it is written and possibly a tag.  Only a
plain one can stand for no value; a truth value or a number is plain, whatever
its tag, or in a block that keeps its line breaks under the very tag for it.
The text of any value can be asked for.
-/

namespace LinearProgram.Yaml

/-- How a single value is written. -/
inductive Style : Type where
  | plain
  /-- In an indented block that keeps its line breaks. -/
  | literal
  /-- In quotes or in an indented block that is folded. -/
  | quoted
deriving DecidableEq

/-- A single value. -/
structure Leaf : Type where
  style : Style
  tag : Option Tag
  text : String
deriving DecidableEq

/-- Whether a plain text is a word for no value. -/
def isNullWord (s : String) : Bool := s == "~" || s == "null" || s == "Null" || s == "NULL"

namespace Leaf

/-- The value where nothing is written. -/
def empty : Leaf := ⟨.plain, none, ""⟩

/-- Whether a value stands for no value.  A tag keeps it from that, except the tag for no value,
which takes only the words for it. -/
def isNull? : Leaf → Option Bool
  | ⟨.plain, none, s⟩ => some (s == "" || isNullWord s)
  | ⟨.plain, some tag, s⟩ =>
    if tag ≠ Tag.null then some false else if isNullWord s then some true else none
  | _ => some false

/-- The text of a value that may be read as one of the kind with the given tag. -/
def textOfKind? (kind : Tag) : Leaf → Option String
  | ⟨.plain, _, s⟩ => some s
  | ⟨.literal, some tag, s⟩ => if tag = kind then some s else none
  | _ => none

/-- A truth value. -/
def bool? (l : Leaf) : Option Bool := do
  let s ← l.textOfKind? Tag.bool
  if s == "true" || s == "True" || s == "TRUE" then some true
  else if s == "false" || s == "False" || s == "FALSE" then some false
  else none

/-- A count without its sign.  A decimal number has no leading zeros. -/
def unsigned? : List Char → Option Nat
  | '0' :: 'x' :: digits => Text.countOfDigits? 16 digits
  | '0' :: 'o' :: digits => Text.countOfDigits? 8 digits
  | '0' :: 'b' :: digits => Text.countOfDigits? 2 digits
  | '0' :: d :: digits =>
    if (d :: digits).all Char.isDigit then none else Text.countOfDigits? 10 ('0' :: d :: digits)
  | digits => Text.countOfDigits? 10 digits

/-- A count below `2 ^ 64`. -/
def size? (l : Leaf) : Option Nat := do
  match (← l.textOfKind? Tag.int).toList with
  | '+' :: digits => unsigned? digits
  | digits => unsigned? digits

/-- The word by which a value chooses among some.  It is the text, or the name in a tag of the
document's own, and then nothing else may be said. -/
def choice? (l : Leaf) : Option String :=
  match l.tag.bind Tag.localName? with
  | none => some l.text
  | some name =>
    if l.style = .plain && (l.text == "" || isNullWord l.text) then some name else none

end Leaf

end LinearProgram.Yaml

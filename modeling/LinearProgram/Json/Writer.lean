import LinearProgram.Json.Value

/-!
# Writing JSON

A value is written in one way but for the blanks between its tokens.  There are two
spacings: a compact one without blanks, and an indented one with every item on a
line of its own.  The functions put the text of a value in front of what follows it.
In strings only the quote, the backslash and the control characters below the space
are escaped.
-/

namespace LinearProgram.Json

/-- The hexadecimal digit of a number below sixteen. -/
def hexDigit (n : Nat) : Char := Nat.digitChar (n % 16)

/-- One character of a string literal. -/
def escape (c : Char) : List Char :=
  if c = '"' then ['\\', '"']
  else if c = '\\' then ['\\', '\\']
  else if c = '\x08' then ['\\', 'b']
  else if c = '\x0c' then ['\\', 'f']
  else if c = '\n' then ['\\', 'n']
  else if c = '\r' then ['\\', 'r']
  else if c = '\t' then ['\\', 't']
  else if c.toNat < 0x20 then ['\\', 'u', '0', '0', hexDigit (c.toNat / 16), hexDigit c.toNat]
  else [c]

/-- The characters of a literal before others. -/
def writeChars : List Char → List Char → List Char
  | [], after => '"' :: after
  | c :: cs, after => escape c ++ writeChars cs after

/-- A string literal.  A literal without a text is written as half of a surrogate pair. -/
def writeString : Option String → List Char → List Char
  | some s, after => '"' :: writeChars s.toList after
  | none, after => '"' :: '\\' :: 'u' :: 'd' :: '8' :: '0' :: '0' :: '"' :: after

/-- A value that is neither an array nor an object. -/
def writeBool (b : Bool) (after : List Char) : List Char :=
  if b then 't' :: 'r' :: 'u' :: 'e' :: after else 'f' :: 'a' :: 'l' :: 's' :: 'e' :: after

/-- The literal `null`. -/
def writeNull (after : List Char) : List Char := 'n' :: 'u' :: 'l' :: 'l' :: after

/-- A number; a positive power of ten has a sign. -/
def writeNumber (n : Numeral) (after : List Char) : List Char := n.chars true ++ after

/-- The blanks between the tokens of a value. -/
structure Spacing where
  /-- What an item begins with, given how many arrays and objects it is in.  The mark that closes an
  array or object begins like the items around it. -/
  line : Nat → List Char
  /-- What stands behind a colon. -/
  colon : List Char

namespace Spacing

/-- No blanks at all. -/
def compact : Spacing := ⟨fun _ => [], []⟩

/-- A line for every item, two spaces deeper than what it belongs to. -/
def indented : Spacing := ⟨fun depth => '\n' :: List.replicate (2 * depth) ' ', [' ']⟩

end Spacing

mutual

/-- A value at some depth. -/
def write (sp : Spacing) (depth : Nat) : Json → List Char → List Char
  | null, after => writeNull after
  | bool b, after => writeBool b after
  | number n, after => writeNumber n after
  | string s, after => writeString s after
  | array [], after => '[' :: ']' :: after
  | array (v :: vs), after =>
    '[' :: (sp.line (depth + 1) ++ write sp (depth + 1) v
      (writeItems sp (depth + 1) vs (sp.line depth ++ ']' :: after)))
  | object [], after => '{' :: '}' :: after
  | object ((k, v) :: fs), after =>
    '{' :: (sp.line (depth + 1) ++ writeString k (':' :: (sp.colon ++ write sp (depth + 1) v
      (writeFields sp (depth + 1) fs (sp.line depth ++ '}' :: after)))))

/-- The items after the first one. -/
def writeItems (sp : Spacing) (depth : Nat) : List Json → List Char → List Char
  | [], after => after
  | v :: vs, after => ',' :: (sp.line depth ++ write sp depth v (writeItems sp depth vs after))

/-- The fields after the first one. -/
def writeFields (sp : Spacing) (depth : Nat) : List (Option String × Json) → List Char → List Char
  | [], after => after
  | (k, v) :: fs, after =>
    ',' :: (sp.line depth ++ writeString k (':' :: (sp.colon ++ write sp depth v
      (writeFields sp depth fs after))))

end

/-- The text of a value. -/
def text (sp : Spacing) (v : Json) : String := String.ofList (write sp 0 v [])

/-- The text of a value without blanks. -/
def compactText (v : Json) : String := v.text .compact

/-- The text of a value over several lines. -/
def indentedText (v : Json) : String := v.text .indented

end LinearProgram.Json

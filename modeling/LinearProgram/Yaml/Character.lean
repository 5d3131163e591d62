/-!
# Characters of a YAML document

Which characters may stand in a document, which of them separate words and end
lines, and how places are counted.  Lines end at a line feed or at one of the
two Unicode separators; the other line breaks are first written as line feeds.
-/

namespace LinearProgram.Yaml

/-- Whether a character may stand in a document. -/
def isAllowed (c : Char) : Bool :=
  let n := c.toNat
  n == 0x9 || n == 0xA || n == 0xD || (0x20 ≤ n && n ≤ 0x7E) || n == 0x85 ||
    (0xA0 ≤ n && n ≤ 0xFFFD) || 0x10000 ≤ n

/-- A text with every line break as a single character.  A carriage return, a next-line character
and a carriage return with a line feed all become a line feed. -/
def unifyBreaks : List Char → List Char
  | [] => []
  | '\r' :: '\n' :: cs => '\n' :: unifyBreaks cs
  | c :: cs => (if c = '\r' ∨ c = '\u0085' then '\n' else c) :: unifyBreaks cs

/-- Whether a character ends a line. -/
def isBreak (c : Char) : Bool := c == '\n' || c == '\u2028' || c == '\u2029'

/-- Whether a character is a blank within a line. -/
def isBlank (c : Char) : Bool := c == ' ' || c == '\t'

/-- Whether what follows a character separates it from the next word. -/
def endsWord : List Char → Bool
  | [] => true
  | c :: _ => isBlank c || isBreak c

/-- Whether a character may stand in the name of an anchor, a handle or a directive. -/
def isNameCharacter (c : Char) : Bool := c.isAlphanum || c == '-' || c == '_'

/-- Whether a character is a mark inside braces and brackets. -/
def isFlowMark (c : Char) : Bool := c == ',' || c == '[' || c == ']' || c == '{' || c == '}'

/-- Whether a line begins or ends a document. -/
def isDocumentMark : List Char → Bool
  | a :: b :: c :: rest => (a == '-' || a == '.') && b == a && c == a && endsWord rest
  | _ => false

/-- What is left of a line after blanks and a comment, from its end on. -/
def afterLine? (cs : List Char) : Option (List Char) :=
  let rest := cs.dropWhile isBlank
  let rest := if rest.head? == some '#' then rest.dropWhile (!isBreak ·) else rest
  match rest with
  | [] => some []
  | c :: rest => if isBreak c then some rest else none

/-- A place in a text, counted from zero. -/
structure Place : Type where
  line : Nat
  column : Nat
deriving DecidableEq

namespace Place

/-- The place after a character. -/
def next (p : Place) (c : Char) : Place :=
  if isBreak c then ⟨p.line + 1, 0⟩ else { p with column := p.column + 1 }

/-- The place after some characters. -/
def after (p : Place) (cs : List Char) : Place := cs.foldl next p

end Place

end LinearProgram.Yaml

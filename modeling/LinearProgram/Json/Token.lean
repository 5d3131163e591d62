import LinearProgram.Json.Value
import LinearProgram.Text.Count

/-!
# Tokens of a JSON text

A text is scanned character by character.  The scanner is a state machine: it
holds the tokens so far and what it has read of the token at hand, so scanning is
one fold over the characters.
-/

namespace LinearProgram.Json

/-- A token of a JSON text. -/
inductive Token : Type where
  | openArray
  | closeArray
  | openObject
  | closeObject
  | comma
  | colon
  | null
  | bool (value : Bool)
  | number (numeral : Numeral)
  | string (text : Option String)
deriving DecidableEq

/-- A unit of a string literal: a character, or a number of four hexadecimal digits. -/
inductive Unit16 : Type where
  | char (c : Char)
  | code (n : Nat)
deriving DecidableEq

/-- The digits at the start of some characters, and what follows them. -/
def digitsThenRest : List Char → List Digit × List Char
  | [] => ([], [])
  | c :: cs =>
    match Digit.ofChar? c with
    | some d => let (ds, rest) := digitsThenRest cs; (d :: ds, rest)
    | none => ([], c :: cs)

/-- The number that digits write. -/
def natOfDigits (ds : List Digit) : Nat := ds.foldl (fun n d => 10 * n + d.val) 0

/-- Reads the power of ten of a number: a sign if any, then digits to the end. -/
def exponentOfChars? (cs : List Char) : Option Int :=
  let read (negative : Bool) (cs : List Char) : Option Int :=
    match digitsThenRest cs with
    | (d :: ds, []) =>
      let n : Int := natOfDigits (d :: ds)
      some (if negative then -n else n)
    | _ => none
  match cs with
  | '+' :: rest => read false rest
  | '-' :: rest => read true rest
  | _ => read false cs

/-- Reads what follows the digits after the point, or the whole part if there is no point. -/
def powerOfChars? (negative : Bool) (whole : Nat) (fraction : List Digit) :
    List Char → Option Numeral
  | [] => some ⟨negative, whole, fraction, none⟩
  | c :: cs =>
    if c = 'e' ∨ c = 'E' then
      (exponentOfChars? cs).map fun e => ⟨negative, whole, fraction, some e⟩
    else none

/-- Reads a number without its sign.  The whole part has no leading zeros, and there are digits
on both sides of a point. -/
def unsignedOfChars? (negative : Bool) (cs : List Char) : Option Numeral :=
  match digitsThenRest cs with
  | ([], _) => none
  | (d :: ds, rest) =>
    if d.val = 0 && !ds.isEmpty then none
    else
      let whole := natOfDigits (d :: ds)
      match rest with
      | '.' :: rest =>
        match digitsThenRest rest with
        | ([], _) => none
        | (fraction, rest) => powerOfChars? negative whole fraction rest
      | rest => powerOfChars? negative whole [] rest

/-- Reads a number. -/
def numeralOfChars? : List Char → Option Numeral
  | '-' :: cs => unsignedOfChars? true cs
  | cs => unsignedOfChars? false cs

/-- Reads a word. -/
def wordOfChars? (cs : List Char) : Option Token :=
  if cs = ['n', 'u', 'l', 'l'] then some .null
  else if cs = ['t', 'r', 'u', 'e'] then some (.bool true)
  else if cs = ['f', 'a', 'l', 's', 'e'] then some (.bool false)
  else none

/-- Whether a number is the first half of a surrogate pair. -/
def isHighSurrogate (n : Nat) : Bool := 0xD800 ≤ n && n < 0xDC00

/-- Whether a number is the second half of a surrogate pair. -/
def isLowSurrogate (n : Nat) : Bool := 0xDC00 ≤ n && n < 0xE000

/-- The characters that the units of a string literal denote.  Two escapes in a row may form a
surrogate pair; half a pair denotes nothing. -/
def charsOfUnits? : List Unit16 → Option (List Char)
  | [] => some []
  | .char c :: rest => (charsOfUnits? rest).map (c :: ·)
  | .code high :: .code low :: rest =>
    if isHighSurrogate high then
      if isLowSurrogate low then
        (charsOfUnits? rest).map
          (Char.ofNat (0x10000 + 0x400 * (high - 0xD800) + (low - 0xDC00)) :: ·)
      else none
    else if isLowSurrogate high then none
    else (charsOfUnits? (.code low :: rest)).map (Char.ofNat high :: ·)
  | .code n :: rest =>
    if isHighSurrogate n || isLowSurrogate n then none
    else (charsOfUnits? rest).map (Char.ofNat n :: ·)

/-- What has been read of the token at hand.  Lists hold the last thing read first. -/
inductive Pending : Type where
  | nothing
  | word (letters : List Char)
  | number (chars : List Char)
  | string (units : List Unit16)
  /-- After a backslash. -/
  | escape (units : List Unit16)
  /-- After the letter of a numeric escape, with the digits still to come and their value so
  far. -/
  | hex (units : List Unit16) (digits value : Nat)

/-- The scanner: the tokens so far, the last one first, and what has been read of the next. -/
structure Scanner : Type where
  tokens : List Token
  pending : Pending

/-- Whether a character is a blank between tokens. -/
def isSeparator (c : Char) : Bool := c == ' ' || c == '\t' || c == '\n' || c == '\r'

/-- Whether a character may stand in a number. -/
def isNumberChar (c : Char) : Bool :=
  c.isDigit || c == '+' || c == '-' || c == '.' || c == 'e' || c == 'E'

/-- The token of a mark. -/
def markToken? (c : Char) : Option Token :=
  if c = '[' then some .openArray
  else if c = ']' then some .closeArray
  else if c = '{' then some .openObject
  else if c = '}' then some .closeObject
  else if c = ',' then some .comma
  else if c = ':' then some .colon
  else none

/-- The character that a one-letter escape stands for. -/
def simpleEscape? (c : Char) : Option Char :=
  if c = '"' ∨ c = '\\' ∨ c = '/' then some c
  else if c = 'b' then some '\x08'
  else if c = 'f' then some '\x0c'
  else if c = 'n' then some '\n'
  else if c = 'r' then some '\r'
  else if c = 't' then some '\t'
  else none

namespace Scanner

/-- The scanner before the first character. -/
def start : Scanner := ⟨[], .nothing⟩

/-- A character that begins a token or stands between tokens. -/
def between (tokens : List Token) (c : Char) : Option Scanner :=
  if isSeparator c then some ⟨tokens, .nothing⟩
  else if c = '"' then some ⟨tokens, .string []⟩
  else if c = '-' ∨ c.isDigit then some ⟨tokens, .number [c]⟩
  else if c.isLower then some ⟨tokens, .word [c]⟩
  else (markToken? c).map fun t => ⟨t :: tokens, .nothing⟩

/-- The tokens after the token at hand has ended.  A string does not end by itself. -/
def close? (s : Scanner) : Option (List Token) :=
  match s.pending with
  | .nothing => some s.tokens
  | .word letters => (wordOfChars? letters.reverse).map (· :: s.tokens)
  | .number chars => (numeralOfChars? chars.reverse).map (.number · :: s.tokens)
  | _ => none

/-- Reads one character. -/
def step (s : Scanner) (c : Char) : Option Scanner :=
  match s.pending with
  | .nothing => between s.tokens c
  | .word letters =>
    if c.isLower then some ⟨s.tokens, .word (c :: letters)⟩
    else s.close?.bind fun tokens => between tokens c
  | .number chars =>
    if isNumberChar c then some ⟨s.tokens, .number (c :: chars)⟩
    else s.close?.bind fun tokens => between tokens c
  | .string units =>
    if c = '"' then
      some ⟨.string ((charsOfUnits? units.reverse).map String.ofList) :: s.tokens, .nothing⟩
    else if c = '\\' then some ⟨s.tokens, .escape units⟩
    else if c.toNat < 0x20 then none
    else some ⟨s.tokens, .string (.char c :: units)⟩
  | .escape units =>
    if c = 'u' then some ⟨s.tokens, .hex units 4 0⟩
    else (simpleEscape? c).map fun d => ⟨s.tokens, .string (.char d :: units)⟩
  | .hex units digits value =>
    (Text.hexValue? c).map fun d =>
      let value := 16 * value + d
      if digits ≤ 1 then ⟨s.tokens, .string (.code value :: units)⟩
      else ⟨s.tokens, .hex units (digits - 1) value⟩

end Scanner

/-- The tokens of a text. -/
def tokens? (cs : List Char) : Option (List Token) := do
  let s ← cs.foldlM Scanner.step Scanner.start
  let tokens ← s.close?
  return tokens.reverse

end LinearProgram.Json

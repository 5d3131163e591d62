import LinearProgram.Text.Count
import LinearProgram.Yaml.Gap

/-!
# Texts in quotes

In single quotes only the quote itself is written twice; in double quotes a
backslash begins an escape, and before a line break it takes the break away.
Lines are folded.  No line of the text may look like the mark that begins or
ends a document.
-/

namespace LinearProgram.Yaml

/-- Reads the text up to the closing single quote, and what follows it.  `text` and `gap` are what
was passed, and `fresh` tells whether a line begins here. -/
def scanSingle? (text : List Char) (gap : Gap) (fresh : Bool) :
    List Char → Option (String × List Char)
  | [] => none
  | c :: rest =>
    if fresh && isDocumentMark (c :: rest) then none
    else if isBlank c || isBreak c then scanSingle? text (gap.add c) (isBreak c) rest
    else if c = '\x27' then
      match rest with
      | '\x27' :: rest => scanSingle? ('\x27' :: gap.folded ++ text) .empty false rest
      | rest => some (String.ofList (gap.folded ++ text).reverse, rest)
    else scanSingle? (c :: gap.folded ++ text) .empty false rest

/-- The character of an escape with one letter. -/
def simpleEscape? (c : Char) : Option Char :=
  if c = '0' then some '\x00'
  else if c = 'a' then some '\x07'
  else if c = 'b' then some '\x08'
  else if c = 't' ∨ c = '\t' then some '\t'
  else if c = 'n' then some '\n'
  else if c = 'v' then some '\x0b'
  else if c = 'f' then some '\x0c'
  else if c = 'r' then some '\r'
  else if c = 'e' then some '\x1b'
  else if c = ' ' ∨ c = '"' ∨ c = '/' ∨ c = '\\' then some c
  else if c = 'N' then some '\u0085'
  else if c = '_' then some '\u00a0'
  else if c = 'L' then some '\u2028'
  else if c = 'P' then some '\u2029'
  else none

/-- The character with a hexadecimal number. -/
def hexChar? (digits : List Char) : Option Char := do
  let n ← Text.natOfDigits? 16 digits
  if n.isValidChar then some (Char.ofNat n) else none

/-- Reads the text up to the closing double quote, and what follows it.  `text` and `gap` are what
was passed, and `fresh` tells whether a line begins here. -/
def scanDouble? (text : List Char) (gap : Gap) (fresh : Bool) :
    List Char → Option (String × List Char)
  | [] => none
  | '\\' :: 'x' :: a :: b :: rest => do
    let c ← hexChar? [a, b]
    scanDouble? (c :: gap.folded ++ text) .empty false rest
  | '\\' :: 'u' :: a :: b :: c :: d :: rest => do
    let e ← hexChar? [a, b, c, d]
    scanDouble? (e :: gap.folded ++ text) .empty false rest
  | '\\' :: 'U' :: a :: b :: c :: d :: e :: f :: g :: h :: rest => do
    let i ← hexChar? [a, b, c, d, e, f, g, h]
    scanDouble? (i :: gap.folded ++ text) .empty false rest
  | '\\' :: c :: rest =>
    if isBreak c then scanDouble? (gap.folded ++ text) (.breaks none []) true rest
    else do
      let d ← simpleEscape? c
      scanDouble? (d :: gap.folded ++ text) .empty false rest
  | '"' :: rest => some (String.ofList (gap.folded ++ text).reverse, rest)
  | c :: rest =>
    if fresh && isDocumentMark (c :: rest) then none
    else if isBlank c || isBreak c then scanDouble? text (gap.add c) (isBreak c) rest
    else scanDouble? (c :: gap.folded ++ text) .empty false rest

/-- Whether a character opens a text in quotes. -/
def isQuote (c : Char) : Bool := c == '"' || c == '\x27'

/-- Reads a text in quotes of either kind, and what follows it. -/
def scanQuoted? : List Char → Option (String × List Char)
  | '"' :: rest => scanDouble? [] .empty false rest
  | '\x27' :: rest => scanSingle? [] .empty false rest
  | _ => none

end LinearProgram.Yaml

import LinearProgram.Text.Count
import LinearProgram.Yaml.Character

/-!
# Texts in an indented block

After a bar or an angle bracket the lines below make a text.  A bar keeps their
breaks; an angle bracket folds them, except next to a line that begins with a
blank.  The header may say how deep the lines are indented, and by a sign what
becomes of the breaks at the end: one is kept, all are with a plus, and none
with a minus.
-/

namespace LinearProgram.Yaml

/-- What the header of a block text says. -/
structure BlockHeader : Type where
  /-- How much deeper than the keys the text is indented, if that is said. -/
  depth : Option Nat
  sign : Option Char

/-- The depth that a digit gives: none if there is no digit, and an error if it is zero. -/
def blockDepth? : List Char → Option (Option Nat × List Char)
  | [] => some (none, [])
  | c :: rest =>
    if c == '0' then none
    else if c.isDigit then some (some (c.toNat - 48), rest)
    else some (none, c :: rest)

/-- The sign at the start of some characters. -/
def blockSign : List Char → Option Char × List Char
  | [] => (none, [])
  | c :: rest => if c == '+' || c == '-' then (some c, rest) else (none, c :: rest)

/-- Reads a header, depth and sign in either order, and what follows it. -/
def blockHeader? (cs : List Char) : Option (BlockHeader × List Char) :=
  match blockSign cs with
  | (some sign, rest) => do
    let (depth, rest) ← blockDepth? rest
    return (⟨depth, some sign⟩, rest)
  | (none, rest) => do
    let (depth, rest) ← blockDepth? rest
    match depth with
    | some _ =>
      let (sign, rest) := blockSign rest
      return (⟨depth, sign⟩, rest)
    | none => return (⟨none, none⟩, rest)

/-- The lines of spaces before a line of a block text. -/
structure BlankLines : Type where
  breaks : List Char
  /-- The most spaces that a line begins with, the line behind the breaks included. -/
  deepest : Nat
  /-- How many spaces were passed on the line behind the breaks. -/
  column : Nat
  rest : List Char

/-- Passes lines of spaces.  At most `indent` spaces of a line are passed, or all of them if it is
not known yet; a tab in their place is refused. -/
def blankLines? (indent : Option Nat) (column deepest : Nat) : List Char → Option BlankLines
  | [] => some ⟨[], max deepest column, column, []⟩
  | c :: rest =>
    let inMargin := indent.all (column < ·)
    if c == ' ' && inMargin then blankLines? indent (column + 1) deepest rest
    else if c == '\t' && inMargin then none
    else if isBreak c then do
      let below ← blankLines? indent 0 (max deepest column) rest
      return { below with breaks := c :: below.breaks }
    else some ⟨[], max deepest column, column, c :: rest⟩

/-- A line of a block text. -/
structure BlockLine : Type where
  text : List Char
  /-- The break that ends the line, if there is one. -/
  ending : List Char
  /-- The breaks of the blank lines below. -/
  below : List Char

namespace BlockLine

/-- Whether a line begins with a blank. -/
def startsBlank (l : BlockLine) : Bool := l.text.head?.any isBlank

/-- What stands between a line and the next one. -/
def between (fold : Bool) (l m : BlockLine) : List Char :=
  if fold && l.ending == ['\n'] && !l.startsBlank && !m.startsBlank then
    if l.below.isEmpty then [' '] else l.below
  else l.ending ++ l.below

/-- The text of a line and the lines after it. -/
def join (fold : Bool) (sign : Option Char) (l : BlockLine) : List BlockLine → List Char
  | [] =>
    l.text ++ (if sign == some '-' then [] else l.ending) ++
      (if sign == some '+' then l.below else [])
  | m :: ms => l.text ++ between fold l m ++ join fold sign m ms

end BlockLine

/-- Reads the lines that are indented by `indent`, given how many spaces of the first one were
passed, and what follows them.  Every line has a character at least, so as many rounds as there are
characters suffice. -/
def blockLines? (indent : Nat) : (rounds column : Nat) → List Char →
    Option (List BlockLine × List Char)
  | 0, _, cs => some ([], cs)
  | rounds + 1, column, cs =>
    if column ≠ indent || cs.isEmpty then some ([], cs)
    else do
      let text := cs.takeWhile (!isBreak ·)
      let after := cs.dropWhile (!isBreak ·)
      let blank ← blankLines? (some indent) 0 0 (after.drop 1)
      let (others, rest) ← blockLines? indent rounds blank.column blank.rest
      return (⟨text, after.take 1, blank.breaks⟩ :: others, rest)

/-- Reads a block text behind its first character, and returns what follows it.  `keys` is the
column of the keys of the block that it stands in. -/
def blockText? (fold : Bool) (keys : Option Nat) (cs : List Char) :
    Option (String × List Char) := do
  let (header, rest) ← blockHeader? cs
  let rest ← afterLine? rest
  let least := keys.elim 0 (· + 1)
  let said := header.depth.map (keys.getD 0 + ·)
  let blank ← blankLines? said 0 0 rest
  let indent := said.getD (max 1 (max least blank.deepest))
  let (ls, rest) ← blockLines? indent blank.rest.length blank.column blank.rest
  let text := BlockLine.join fold header.sign ⟨[], [], blank.breaks⟩ ls
  return (String.ofList text, rest)

end LinearProgram.Yaml

import LinearProgram.Yaml.BlockText
import LinearProgram.Yaml.Plain
import LinearProgram.Yaml.Token

/-!
# Reading the tokens of a YAML document

A state holds the rest of the text and what decides how it is read: the place,
the column of the keys, whether braces are open, and where a key may have begun.
A key without a mark of its own stands on one line with its colon and takes up
1024 columns at most.  As settings have no values within values, a block inside
a block, braces inside braces and all lists are refused here.
-/

namespace LinearProgram.Yaml

/-- A place where a key without a mark of its own may have begun. -/
structure KeyCandidate : Type where
  place : Place
  /-- Whether nothing but a key can stand there. -/
  isRequired : Bool
  /-- The number of tokens before it. -/
  position : Nat

/-- A state of reading. -/
structure Lexer : Type where
  rest : List Char
  place : Place
  /-- The column of the keys, inside a block. -/
  block : Option Nat
  inBraces : Bool
  /-- Whether a key without a mark of its own may begin. -/
  keyMayBegin : Bool
  candidate : Option KeyCandidate
  /-- The tokens so far, the last one first. -/
  tokens : List Token

namespace Lexer

/-- The state before a text. -/
def start (cs : List Char) : Lexer := ⟨cs, ⟨0, 0⟩, none, false, true, none, []⟩

/-- Adds a token, and goes on with the given rest of the text. -/
def push (l : Lexer) (t : Token) (rest : List Char) : Lexer :=
  { l with
    rest := rest
    place := l.place.after (l.rest.take (l.rest.length - rest.length))
    tokens := t :: l.tokens }

/-- Puts a token behind the first `position` ones. -/
def insertAt (l : Lexer) (position : Nat) (t : Token) : Lexer :=
  let later := l.tokens.length - position
  { l with tokens := l.tokens.take later ++ t :: l.tokens.drop later }

/-! ## Keys and blocks -/

/-- Gives up the candidate for a key, unless there has to be a key. -/
def dropCandidate? (l : Lexer) : Option Lexer :=
  if l.candidate.any (·.isRequired) then none else some { l with candidate := none }

/-- Gives up a candidate that is too far away. -/
def expireCandidate? (l : Lexer) : Option Lexer :=
  let isFar (k : KeyCandidate) : Bool :=
    k.place.line < l.place.line || k.place.column + 1024 < l.place.column
  if l.candidate.any isFar then l.dropCandidate? else some l

/-- Notes that a key may begin here, if it may. -/
def noteCandidate? (l : Lexer) : Option Lexer :=
  if l.keyMayBegin then
    let isRequired := !l.inBraces && l.block == some l.place.column
    l.dropCandidate?.map fun m =>
      { m with candidate := some ⟨l.place, isRequired, l.tokens.length⟩ }
  else some l

/-- Starts a block whose keys are in a column, unless it has been.  Its token stands behind the
first `position` ones. -/
def openBlock? (l : Lexer) (column position : Nat) : Option Lexer :=
  if l.inBraces then some l
  else match l.block with
    | none => some { l.insertAt position .blockStart with block := some column }
    | some keys => if keys < column then none else some l

/-- Ends a block. -/
def closeBlock (l : Lexer) : Lexer :=
  if l.block.isSome then { l with block := none, tokens := .blockEnd :: l.tokens } else l

/-- Ends a block whose keys are right of the current column. -/
def closeDeeperBlock (l : Lexer) : Lexer :=
  if l.block.any (l.place.column < ·) then l.closeBlock else l

/-! ## Blanks and comments -/

/-- Passes blanks, comments and line breaks.  A byte order mark may begin a line.  In a block a
key may begin on a new line, and where one may, no tab stands before it. -/
def skipBlanks (inBraces keyMayBegin inComment : Bool) (place : Place) :
    List Char → Bool × Place × List Char
  | [] => (keyMayBegin, place, [])
  | c :: rest =>
    if isBreak c then skipBlanks inBraces (keyMayBegin || !inBraces) false (place.next c) rest
    else if inComment || c == '#' then
      skipBlanks inBraces keyMayBegin true (place.next c) rest
    else if c == ' ' || (c == '\t' && (inBraces || !keyMayBegin)) ||
        (c == '\ufeff' && place.column = 0) then
      skipBlanks inBraces keyMayBegin false (place.next c) rest
    else (keyMayBegin, place, c :: rest)

/-- The state before the next token. -/
def beforeToken? (l : Lexer) : Option Lexer := do
  let (keyMayBegin, place, rest) := skipBlanks l.inBraces l.keyMayBegin false l.place l.rest
  let l ← { l with keyMayBegin, place, rest }.expireCandidate?
  return l.closeDeeperBlock

/-! ## Tokens by their first character -/

/-- Reads a token that stands outside all blocks. -/
def readOuter? (l : Lexer) (t : Token) (rest : List Char) : Option Lexer := do
  let l ← l.closeBlock.dropCandidate?
  return { l.push t rest with keyMayBegin := false }

/-- Reads an opening brace. -/
def readBracesStart? (l : Lexer) (rest : List Char) : Option Lexer :=
  if l.inBraces || l.block.isSome then none
  else some { l.push .bracesStart rest with
    inBraces := true, keyMayBegin := true, candidate := none }

/-- Reads a closing brace. -/
def readBracesEnd? (l : Lexer) (rest : List Char) : Option Lexer :=
  if l.inBraces then
    some { l.push .bracesEnd rest with inBraces := false, keyMayBegin := false, candidate := none }
  else none

/-- Reads a comma between entries. -/
def readComma? (l : Lexer) (rest : List Char) : Option Lexer :=
  if l.inBraces then some { l.push .comma rest with keyMayBegin := true, candidate := none }
  else none

/-- Reads the mark of a key. -/
def readKey? (l : Lexer) (rest : List Char) : Option Lexer := do
  if !l.inBraces && !l.keyMayBegin then none
  let l ← (← l.openBlock? l.place.column l.tokens.length).dropCandidate?
  return { l.push .key rest with keyMayBegin := !l.inBraces }

/-- Reads the mark of a value.  A candidate for a key is one now. -/
def readValue? (l : Lexer) (rest : List Char) : Option Lexer :=
  match l.candidate with
  | some k => do
    let l ← (l.insertAt k.position .key).openBlock? k.place.column k.position
    return { l.push .value rest with keyMayBegin := false, candidate := none }
  | none => do
    if !l.inBraces && !l.keyMayBegin then none
    let l ← l.openBlock? l.place.column l.tokens.length
    return { l.push .value rest with keyMayBegin := !l.inBraces }

/-- Reads a token that a key may begin with. -/
def readWord? (l : Lexer) (t : Token) (rest : List Char) : Option Lexer := do
  let l ← l.noteCandidate?
  return { l.push t rest with keyMayBegin := false }

/-- Reads the name of an anchor. -/
def readName? (l : Lexer) (token : String → Token) (rest : List Char) : Option Lexer :=
  let name := rest.takeWhile isNameCharacter
  let after := rest.dropWhile isNameCharacter
  let isEnd (c : Char) : Bool :=
    c == '?' || c == ':' || c == ',' || c == ']' || c == '}' || c == '%' || c == '@' || c == '\x60'
  if !name.isEmpty && (endsWord after || after.head?.any isEnd) then
    l.readWord? (token (String.ofList name)) after
  else none

/-- Reads a text in an indented block. -/
def readBlockText? (l : Lexer) (fold : Bool) (rest : List Char) : Option Lexer := do
  let l ← l.dropCandidate?
  let (text, rest) ← blockText? fold l.block rest
  return { l.push (.scalar (if fold then .quoted else .literal) text) rest with
    keyMayBegin := true }

/-- Reads a plain text.  If a line ends behind it, a key may begin. -/
def readPlain? (l : Lexer) : Option Lexer := do
  let plain ← scanPlain? l.inBraces (l.block.elim 0 (· + 1)) [] .empty none l.rest
  let l ← l.readWord? (.scalar .plain plain.text) plain.rest
  return { l with keyMayBegin := plain.endsLine }

/-- Reads the next token. -/
def readToken? (l : Lexer) : Option Lexer :=
  match l.rest with
  | [] => none
  | c :: rest =>
    let isMark := l.inBraces || endsWord rest
    if l.place.column = 0 && c == '%' then do
      let (directive, rest) ← scanDirective? rest
      l.readOuter? (.directive directive) rest
    else if l.place.column = 0 && isDocumentMark (c :: rest) then
      l.readOuter? (if c == '-' then .documentStart else .documentEnd) (rest.drop 2)
    else if c == '{' then l.readBracesStart? rest
    else if c == '}' then l.readBracesEnd? rest
    else if c == ',' then l.readComma? rest
    else if c == '?' && isMark then l.readKey? rest
    else if c == ':' && isMark then l.readValue? rest
    else if c == '*' then l.readName? .reference rest
    else if c == '&' then l.readName? .anchor rest
    else if c == '!' then do
      let (tag, rest) ← scanTag? l.inBraces rest
      l.readWord? (.tag tag) rest
    else if (c == '|' || c == '>') && !l.inBraces then l.readBlockText? (c == '>') rest
    else if isQuote c then do
      let (text, rest) ← scanQuoted? (c :: rest)
      l.readWord? (.scalar .quoted text) rest
    else if startsPlain l.inBraces (c :: rest) then l.readPlain?
    else none

/-- Reads all tokens.  Every token takes a character at least, so as many rounds as there are
characters, and one for the end, suffice. -/
def run? : (rounds : Nat) → Lexer → Option (List Token)
  | 0, _ => none
  | rounds + 1, l => do
    let l ← l.beforeToken?
    if l.rest.isEmpty then
      let l ← l.closeBlock.dropCandidate?
      return l.tokens.reverse
    else run? rounds (← l.readToken?)

end Lexer

/-- The tokens of a text. -/
def Token.ofText? (s : String) : Option (List Token) :=
  if s.toList.all isAllowed then
    let cs := unifyBreaks s.toList
    (Lexer.start cs).run? (cs.length + 1)
  else none

end LinearProgram.Yaml

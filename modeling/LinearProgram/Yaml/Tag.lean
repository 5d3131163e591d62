import LinearProgram.Text.Count
import LinearProgram.Yaml.Character

/-!
# Tags and directives

A tag says what kind of node follows it.  It is written in full between angle
brackets, or as a handle and a suffix, where the handle stands for the first
part of the tag.  A directive before a document names the version of the
language or gives a handle its meaning.  Octets may be written by number; they
have to make up characters in number and kind, but not to be the shortest such.
-/

namespace LinearProgram.Yaml

/-- A tag, as the octets of its text. -/
abbrev Tag : Type := List UInt8

namespace Tag

/-- The tag with a text. -/
def ofString (s : String) : Tag := s.toUTF8.data.toList

/-- What the tags of the language itself begin with. -/
def standard : String := "tag:yaml.org,2002:"

/-- The tag for no value. -/
def null : Tag := ofString (standard ++ "null")

/-- The tag for truth values. -/
def bool : Tag := ofString (standard ++ "bool")

/-- The tag for whole numbers. -/
def int : Tag := ofString (standard ++ "int")

/-- The tag that only says that there is one. -/
def lone : Tag := ofString "!"

/-- The name in a tag that belongs to the document alone. -/
def localName? : Tag → Option String
  | [] => none
  | mark :: name => if mark = 0x21 then String.fromUTF8? ⟨name.toArray⟩ else none

end Tag

/-- Whether a character may stand in a tag.  `full` tells whether the tag is written in full. -/
def isTagCharacter (full : Bool) (c : Char) : Bool :=
  isNameCharacter c || c == ';' || c == '/' || c == '?' || c == ':' || c == '@' || c == '&' ||
    c == '=' || c == '+' || c == '$' || c == '.' || c == '!' || c == '~' || c == '*' ||
    c == '\x27' || c == '(' || c == ')' || (full && (c == ',' || c == '[' || c == ']'))

/-- How many octets follow the first octet of a character. -/
def followingOctets? (first : Nat) : Option Nat :=
  if first < 0x80 then some 0
  else if first < 0xC0 then none
  else if first < 0xE0 then some 1
  else if first < 0xF0 then some 2
  else if first < 0xF8 then some 3
  else none

/-- Whether an octet is one that follows the first octet of a character. -/
def isFollowingOctet (octet : Nat) : Bool := 0x80 ≤ octet && octet < 0xC0

/-- Reads octets as far as a tag goes, and returns what follows them.  `due` counts the octets
still to come of a character that is written by number. -/
def scanOctets? (full : Bool) (due : Nat) : List Char → Option (Tag × List Char)
  | [] => if due = 0 then some ([], []) else none
  | '%' :: a :: b :: rest => do
    let octet ← Text.natOfDigits? 16 [a, b]
    let due ←
      if due = 0 then followingOctets? octet
      else if isFollowingOctet octet then some (due - 1)
      else none
    let (octets, rest) ← scanOctets? full due rest
    return (octet.toUInt8 :: octets, rest)
  | c :: rest =>
    if due ≠ 0 || c == '%' then none
    else if isTagCharacter full c then do
      let (octets, rest) ← scanOctets? full 0 rest
      return (c.toNat.toUInt8 :: octets, rest)
    else some ([], c :: rest)

/-- Reads a tag or the rest of one, and returns what follows it.  A zero octet ends it early. -/
def scanTagText? (full mayBeEmpty : Bool) (cs : List Char) : Option (Tag × List Char) := do
  let (octets, rest) ← scanOctets? full 0 cs
  if octets.isEmpty && !mayBeEmpty then none
  return (octets.takeWhile (· ≠ 0), rest)

/-- A tag as it is written: a handle, empty for a tag in full, and what follows the handle. -/
structure WrittenTag : Type where
  handle : String
  suffix : Tag
deriving DecidableEq

/-- Reads a handle behind its first mark: a name, and whether a second mark closes it. -/
def scanHandle (cs : List Char) : List Char × Bool × List Char :=
  let name := cs.takeWhile isNameCharacter
  match cs.dropWhile isNameCharacter with
  | '!' :: rest => (name, true, rest)
  | rest => (name, false, rest)

/-- Reads a tag behind its first mark, and returns what follows it.  In braces a comma may follow
directly, and otherwise a tag ends with its word. -/
def scanTag? (flow : Bool) (cs : List Char) : Option (WrittenTag × List Char) := do
  let ended (tag : WrittenTag) (rest : List Char) : Option (WrittenTag × List Char) :=
    if endsWord rest || (flow && rest.head? == some ',') then some (tag, rest) else none
  match cs with
  | '<' :: rest =>
    let (suffix, rest) ← scanTagText? true false rest
    match rest with
    | '>' :: rest => ended ⟨"", suffix⟩ rest
    | _ => none
  | cs =>
    let (name, isClosed, rest) := scanHandle cs
    if isClosed then
      let (suffix, rest) ← scanTagText? false false rest
      ended ⟨String.ofList ('!' :: name ++ ['!']), suffix⟩ rest
    else
      let (suffix, rest) ← scanTagText? false true cs
      if suffix.isEmpty then ended ⟨"", Tag.lone⟩ rest else ended ⟨"!", suffix⟩ rest

/-! ## Directives -/

/-- What a line before a document lays down. -/
inductive Directive : Type where
  /-- The version of the language, one that is known. -/
  | version
  /-- The meaning of a handle. -/
  | handle (name : String) (meaning : Tag)
deriving DecidableEq

/-- Reads a number of at most nine digits. -/
def scanVersionNumber? (cs : List Char) : Option (Nat × List Char) := do
  let digits := cs.takeWhile Char.isDigit
  if digits.isEmpty || 9 < digits.length then none
  return (← Text.natOfDigits? 10 digits, cs.dropWhile Char.isDigit)

/-- Reads the number of a known version. -/
def scanVersion? (cs : List Char) : Option (Directive × List Char) := do
  let (major, rest) ← scanVersionNumber? (cs.dropWhile isBlank)
  match rest with
  | '.' :: rest =>
    let (minor, rest) ← scanVersionNumber? rest
    if major = 1 && (minor = 1 || minor = 2) then some (.version, rest) else none
  | _ => none

/-- Reads a handle and its meaning. -/
def scanHandleMeaning? (cs : List Char) : Option (Directive × List Char) := do
  match cs.dropWhile isBlank with
  | '!' :: rest =>
    let (name, isClosed, rest) := scanHandle rest
    if !isClosed && !name.isEmpty then none
    if !(rest.head?.any isBlank) then none
    let (meaning, rest) ← scanTagText? true false (rest.dropWhile isBlank)
    if !(endsWord rest) then none
    return (.handle (String.ofList ('!' :: name ++ if isClosed then ['!'] else [])) meaning, rest)
  | _ => none

/-- Reads a directive behind its first mark up to the end of its line. -/
def scanDirective? (cs : List Char) : Option (Directive × List Char) := do
  let name := String.ofList (cs.takeWhile isNameCharacter)
  let rest := cs.dropWhile isNameCharacter
  if !(endsWord rest) then none
  let (directive, rest) ←
    if name = "YAML" then scanVersion? rest
    else if name = "TAG" then scanHandleMeaning? rest
    else none
  return (directive, ← afterLine? rest)

end LinearProgram.Yaml

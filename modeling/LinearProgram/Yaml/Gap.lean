import LinearProgram.Yaml.Character

/-!
# Gaps between words

A text over several lines is folded: blanks on a line stand for themselves, but
around a line break they are left out, one line break becomes a space, and of
several breaks all but the first are kept.  Folding concerns the line feed only;
a Unicode separator that comes first is kept like the breaks after it.

Texts are collected with the last character first.
-/

namespace LinearProgram.Yaml

/-- What lies between two words of a text. -/
inductive Gap : Type where
  /-- Blanks on a line, the last one first. -/
  | blanks (cs : List Char)
  /-- The first line break, unless it was escaped, and the breaks after it, the last one first. -/
  | breaks (first : Option Char) (others : List Char)
deriving DecidableEq

namespace Gap

/-- No gap at all. -/
def empty : Gap := blanks []

/-- The gap with another blank or line break. -/
def add (c : Char) : Gap → Gap
  | blanks cs => if isBreak c then breaks (some c) [] else blanks (c :: cs)
  | breaks first others => if isBreak c then breaks first (c :: others) else breaks first others

/-- What a gap stands for, the last character first. -/
def folded : Gap → List Char
  | blanks cs => cs
  | breaks none others => others
  | breaks (some c) others =>
    if c ≠ '\n' then others ++ [c] else if others.isEmpty then [' '] else others

end Gap

end LinearProgram.Yaml

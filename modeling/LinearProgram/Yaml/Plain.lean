import LinearProgram.Yaml.Quoted

/-!
# Plain texts

A plain text ends before a colon that ends a word, before a comment, and inside
braces before their marks.  In a block it goes on over the lines that are
indented deeper than the keys; a tab in the indentation of such a line is
refused.  Lines are folded.
-/

namespace LinearProgram.Yaml

/-- Whether a character has a meaning of its own at the start of a value. -/
def isIndicator (c : Char) : Bool :=
  isFlowMark c || isQuote c || c == '#' || c == '&' || c == '*' || c == '!' || c == '|' ||
    c == '>' || c == '%' || c == '@' || c == '\x60'

/-- Whether a plain text can start here.  `flow` tells whether it stands inside braces. -/
def startsPlain (flow : Bool) : List Char → Bool
  | [] => false
  | c :: rest =>
    if isBlank c || isBreak c || isIndicator c then false
    else if c == '-' then !endsWord rest
    else if c == '?' || c == ':' then !flow && !endsWord rest
    else true

/-- A plain text and what follows it. -/
structure PlainText : Type where
  text : String
  /-- Whether a line ends between the text and what follows. -/
  endsLine : Bool
  rest : List Char

/-- Reads a plain text.  Its lines are indented by `indent` at least.  `text` and `gap` are what
was passed, and `margin` counts the blanks since the line began if no word of it was passed. -/
def scanPlain? (flow : Bool) (indent : Nat) (text : List Char) (gap : Gap) (margin : Option Nat) :
    List Char → Option PlainText
  | [] => some ⟨String.ofList text.reverse, margin.isSome, []⟩
  | c :: rest =>
    let ended : PlainText := ⟨String.ofList text.reverse, margin.isSome, c :: rest⟩
    if isBlank c then
      if c == '\t' && margin.any (· < indent) then none
      else scanPlain? flow indent text (gap.add c) (margin.map (· + 1)) rest
    else if isBreak c then scanPlain? flow indent text (gap.add c) (some 0) rest
    else if !flow && margin.any (· < indent) then some ended
    else if margin == some 0 && isDocumentMark (c :: rest) then some ended
    else if c == '#' && gap != .empty then some ended
    else if c == ':' && flow && rest.head?.any (fun d => isFlowMark d || d == '?') then none
    else if (c == ':' && endsWord rest) || (flow && isFlowMark c) then some ended
    else scanPlain? flow indent (c :: gap.folded ++ text) .empty none rest

end LinearProgram.Yaml

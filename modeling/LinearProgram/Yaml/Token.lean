import LinearProgram.Yaml.Leaf

/-!
# Tokens of a YAML document

What a document is made of before it is read as a mapping.  Most tokens are
written out; the start of a block, its end and the start of a key often are not,
and follow from the columns of the keys and from the colons behind them.
-/

namespace LinearProgram.Yaml

/-- A token. -/
inductive Token : Type where
  | directive (d : Directive)
  | documentStart
  | documentEnd
  | blockStart
  | blockEnd
  | bracesStart
  | bracesEnd
  | comma
  | key
  | value
  | anchor (name : String)
  /-- The name of an anchor, in place of the node with that anchor. -/
  | reference (name : String)
  | tag (tag : WrittenTag)
  | scalar (style : Style) (text : String)
deriving DecidableEq

/-- Whether a token stands outside the content of documents. -/
def Token.isOuter : Token → Bool
  | .directive _ | .documentStart | .documentEnd => true
  | _ => false

end LinearProgram.Yaml

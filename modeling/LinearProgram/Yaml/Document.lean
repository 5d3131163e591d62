import LinearProgram.Yaml.Token.Lexer

/-!
# Small YAML documents

A document of settings is a mapping from words to single values, written in a
block or in braces.  A document without content is the empty mapping.  Single
values at the top and further documents behind it are refused.

A node may have an anchor, and a reference stands for the node with that anchor.
`mapping?` returns keys and values in their order; keys may repeat.
-/

namespace LinearProgram.Yaml

/-- Keys with their values, in their order. -/
abbrev Mapping : Type := List (String × Leaf)

/-- A key or a value: a node, or the number of an anchor. -/
inductive Item : Type where
  | leaf (l : Leaf)
  | reference (number : Nat)

/-- The anchors of a document.  A name gets the number of names in use when it is given to a node.
If it was in use itself, the next new name gets that number too, and then both names stand for the
node of the latter. -/
structure Anchors : Type where
  numbers : List (String × Nat)
  /-- The nodes by number, the last one first.  The mapping itself is not a single value. -/
  nodes : List (Nat × Option Leaf)

namespace Anchors

/-- No anchors. -/
def empty : Anchors := ⟨[], []⟩

/-- The anchors after a node that may have one. -/
def add (as : Anchors) (name : Option String) (node : Option Leaf) : Anchors :=
  match name with
  | none => as
  | some name =>
    let number := as.numbers.length
    ⟨(name, number) :: as.numbers.filter (·.1 != name), (number, node) :: as.nodes⟩

/-- The single value that an item stands for. -/
def leaf? (as : Anchors) : Item → Option Leaf
  | .leaf l => some l
  | .reference number => (as.nodes.lookup number).bind id

end Anchors

/-- What stands before a node. -/
structure Properties : Type where
  anchor : Option String
  tag : Option WrittenTag

namespace Properties

/-- Reads an anchor and a tag in either order, and returns what follows them. -/
def read : List Token → Properties × List Token
  | .anchor name :: .tag tag :: ts => (⟨some name, some tag⟩, ts)
  | .tag tag :: .anchor name :: ts => (⟨some name, some tag⟩, ts)
  | .anchor name :: ts => (⟨some name, none⟩, ts)
  | .tag tag :: ts => (⟨none, some tag⟩, ts)
  | ts => (⟨none, none⟩, ts)

/-- Whether there are any. -/
def isPresent (p : Properties) : Bool := p.anchor.isSome || p.tag.isSome

/-- The tag, given what handles stand for: no tag if none is written, and an error if the handle
is not known. -/
def tag? (handles : List (String × Tag)) (p : Properties) : Option (Option Tag) :=
  match p.tag with
  | none => some none
  | some tag =>
    if tag.handle = "" then some (some tag.suffix)
    else (handles.lookup tag.handle).map fun meaning => some (meaning ++ tag.suffix)

end Properties

/-! ## Entries -/

/-- What was read from tokens, the anchors then, and the tokens that follow. -/
abbrev Reading (α : Type) : Type := α × Anchors × List Token

/-- Reads a key or a value. -/
def readItem? (handles : List (String × Tag)) (as : Anchors) (ts : List Token) :
    Option (Reading Item) :=
  match ts with
  | .reference name :: ts => do return (.reference (← as.numbers.lookup name), as, ts)
  | ts => do
    let (properties, ts) := Properties.read ts
    let tag ← properties.tag? handles
    let node (leaf : Leaf) (ts : List Token) : Option (Reading Item) :=
      some (.leaf leaf, as.add properties.anchor (some leaf), ts)
    match ts with
    | .scalar style text :: ts => node ⟨style, tag, text⟩ ts
    | .blockStart :: _ => none
    | .bracesStart :: _ => none
    | ts => if properties.isPresent then node ⟨.plain, tag, ""⟩ ts else none

/-- Reads a key or a value behind its mark, which may be left out before one of the given tokens. -/
def readItemBefore? (ends : List Token) (handles : List (String × Tag)) (as : Anchors)
    (ts : List Token) : Option (Reading Item) :=
  if ts.head?.any ends.contains then some (.leaf .empty, as, ts) else readItem? handles as ts

/-- Reads a value with its mark; without the mark there is none. -/
def readValue? (ends : List Token) (handles : List (String × Tag)) (as : Anchors)
    (ts : List Token) : Option (Reading Item) :=
  match ts with
  | .value :: ts => readItemBefore? ends handles as ts
  | ts => some (.leaf .empty, as, ts)

/-- Reads the entries of a block up to its end.  Every entry takes a token at least, so as many
rounds as there are tokens suffice. -/
def readBlock? (handles : List (String × Tag)) :
    (rounds : Nat) → Anchors → List Token → Option (Reading (List (Item × Item)))
  | 0, _, _ => none
  | rounds + 1, as, ts =>
    let ends : List Token := [.key, .value, .blockEnd]
    match ts with
    | .blockEnd :: ts => some ([], as, ts)
    | .key :: ts => do
      let (key, as, ts) ← readItemBefore? ends handles as ts
      let (value, as, ts) ← readValue? ends handles as ts
      let (others, as, ts) ← readBlock? handles rounds as ts
      return ((key, value) :: others, as, ts)
    | _ => none

/-- Reads the entries in braces up to the closing one.  Commas stand between them, and one may
stand behind the last.  Every entry takes a token at least, so as many rounds as there are tokens
suffice. -/
def readBraces? (handles : List (String × Tag)) :
    (rounds : Nat) → Anchors → List Token → Option (Reading (List (Item × Item)))
  | 0, _, _ => none
  | rounds + 1, as, ts =>
    let others (key value : Item) (as : Anchors) :
        List Token → Option (Reading (List (Item × Item)))
      | .comma :: ts => do
        let (others, as, ts) ← readBraces? handles rounds as ts
        return ((key, value) :: others, as, ts)
      | .bracesEnd :: ts => some ([(key, value)], as, ts)
      | _ => none
    match ts with
    | .bracesEnd :: ts => some ([], as, ts)
    | .key :: ts => do
      let (key, as, ts) ← readItemBefore? [.value, .comma, .bracesEnd] handles as ts
      let (value, as, ts) ← readValue? [.comma, .bracesEnd] handles as ts
      others key value as ts
    | ts => do
      let (key, as, ts) ← readItem? handles as ts
      others key (.leaf .empty) as ts

/-! ## Documents -/

/-- Reads the mapping of a document.  Properties alone make an empty one. -/
def readMapping? (handles : List (String × Tag)) (ts : List Token) :
    Option (Reading (List (Item × Item))) := do
  let (properties, ts) := Properties.read ts
  let _ ← properties.tag? handles
  let as := Anchors.empty.add properties.anchor none
  match ts with
  | .blockStart :: ts => readBlock? handles (ts.length + 1) as ts
  | .bracesStart :: ts => readBraces? handles (ts.length + 1) as ts
  | .scalar _ _ :: _ => none
  | ts => if properties.isPresent then some ([], as, ts) else none

/-- The handles that need no directive. -/
def standardHandles : List (String × Tag) :=
  [("!", Tag.ofString "!"), ("!!", Tag.ofString Tag.standard)]

/-- Reads the directives before a document, and returns the handles they lay down and what follows
them.  The version is said once at most, and every handle gets one meaning at most. -/
def readDirectives? (hasVersion : Bool) (handles : List (String × Tag)) :
    List Token → Option (List (String × Tag) × List Token)
  | .directive .version :: ts => if hasVersion then none else readDirectives? true handles ts
  | .directive (.handle name meaning) :: ts =>
    if (handles.lookup name).isSome then none
    else readDirectives? hasVersion ((name, meaning) :: handles) ts
  | ts => some (handles, ts)

/-- Reads the first document.  Its start has to be marked if directives stand before it, and a
document with a marked start may be without content. -/
def readDocument? (ts : List Token) : Option (Reading (List (Item × Item))) := do
  match ts with
  | [] => return ([], .empty, [])
  | .directive _ :: _ | .documentStart :: _ =>
    let (handles, ts) ← readDirectives? false [] ts
    match ts with
    | .documentStart :: ts =>
      if ts.head?.all Token.isOuter then return ([], .empty, ts)
      else readMapping? (handles ++ standardHandles) ts
    | _ => none
  | ts => readMapping? standardHandles ts

/-- Reads the keys and values of the only document in a text. -/
def mapping? (s : String) : Option Mapping := do
  let (entries, as, ts) ← readDocument? (← Token.ofText? s)
  if !(ts.all (· == .documentEnd)) then none
  entries.mapM fun (key, value) => do return ((← as.leaf? key).text, ← as.leaf? value)

end LinearProgram.Yaml

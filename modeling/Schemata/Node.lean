import Schemata.Token

/-!
# The tree of entries

A schema is read as a tree before anything in it has a meaning. Every entry is a
keyword with values and, in parentheses, further entries. An entry inside a group
that has neither values nor a group is a flag.
-/

namespace Schemata

/-- A name where it stands in the source. -/
structure Name where
  text : String
  position : Position
  deriving DecidableEq, Repr

/-- The length of a name in bytes. -/
def Name.size (name : Name) : Nat :=
  byteLength name.text.toList

/-- A value after a keyword. A path has at least two segments. -/
inductive Atom where
  | ident (name : String)
  | path (first second : String) (more : List String)
  | integer (value : Int)
  | text (content : String)
  | placeholder
  | comparison (op : Comparison)
  deriving DecidableEq, Repr

namespace Atom

/-- The segments of a path, joined by dots. -/
def joinPath (segments : List String) : String :=
  ".".intercalate segments

/-- A value as messages show it. -/
def describe : Atom → String
  | ident name => name
  | path first second more => joinPath (first :: second :: more)
  | integer value => toString value
  | text content => "\"" ++ content ++ "\""
  | placeholder => "?"
  | comparison op => op.symbol

/-- The spelling of a word, path or operator; other values have none. -/
def spelling : Atom → String
  | ident name => name
  | path first second more => joinPath (first :: second :: more)
  | comparison op => op.symbol
  | _ => ""

end Atom

/-- A value where it stands in the source, with its length in bytes. -/
structure Leaf where
  atom : Atom
  position : Position
  size : Nat
  deriving DecidableEq, Repr

/-- An entry: a bare flag, or a keyword with values and further entries. -/
inductive Node where
  | flag (keyword : Name)
  | tuple (keyword : Name) (arguments : List Leaf) (children : List Node)
  deriving Repr

namespace Node

/-- The keyword an entry starts with. -/
def keyword : Node → Name
  | flag keyword => keyword
  | tuple keyword _ _ => keyword

/-- The values of an entry; a flag has none. -/
def arguments : Node → List Leaf
  | flag _ => []
  | tuple _ arguments _ => arguments

/-- The entries inside an entry; a flag has none. -/
def children : Node → List Node
  | flag _ => []
  | tuple _ _ children => children

/-- Where an entry starts. -/
def position (node : Node) : Position :=
  node.keyword.position

/-- An entry that stands on its own is never a flag. -/
def asStatement (node : Node) : Node :=
  .tuple node.keyword node.arguments node.children

end Node

end Schemata

/-!
# Syntax trees

A tree of a source text. Every node covers a range of bytes of the text; a child may stand in a
field of its parent. Named nodes are those that a grammar gives a name to, the others are single
tokens. A node is missing if the grammar had to make it up.
-/
namespace CodeStyle

/-- What a node tells of itself. -/
structure NodeInfo where
  kind : String
  field : Option String := none
  isNamed : Bool := true
  isMissing : Bool := false
  hasError : Bool := false
  start : Nat
  stop : Nat
deriving DecidableEq, Repr

/-- A node and its children in the order of the text. -/
inductive SyntaxTree
  | node (info : NodeInfo) (children : List SyntaxTree)

namespace SyntaxTree

def info : SyntaxTree → NodeInfo
  | node info _ => info

/-- The children in the order of the text. -/
def children : SyntaxTree → List SyntaxTree
  | node _ children => children

/-- The kind of a node in its grammar. -/
def kind (t : SyntaxTree) : String := t.info.kind

/-- Whether a node stands in a field of its parent. -/
def inField (name : String) (t : SyntaxTree) : Bool := t.info.field == some name

def fields (t : SyntaxTree) (name : String) : List SyntaxTree := t.children.filter (inField name)

/-- The first child in a field. -/
def field? (t : SyntaxTree) (name : String) : Option SyntaxTree := t.children.find? (inField name)

def namedChildren (t : SyntaxTree) : List SyntaxTree := t.children.filter (·.info.isNamed)

def commentKinds : List String := ["comment", "line_comment", "block_comment"]

def isComment (t : SyntaxTree) : Bool := commentKinds.contains t.kind

/-- The named children that are no comments. -/
def codeChildren (t : SyntaxTree) : List SyntaxTree := t.namedChildren.filter (!·.isComment)

def hasChild (t : SyntaxTree) (kind : String) : Bool := t.children.any (·.kind == kind)

/-- The first named child of one of some kinds. -/
def firstChild? (t : SyntaxTree) (kinds : List String) : Option SyntaxTree :=
  t.namedChildren.find? fun c => kinds.contains c.kind

@[simp] theorem info_node (i : NodeInfo) (cs : List SyntaxTree) : (node i cs).info = i := rfl

@[simp] theorem children_node (i : NodeInfo) (cs : List SyntaxTree) :
    (node i cs).children = cs := rfl

end SyntaxTree

end CodeStyle

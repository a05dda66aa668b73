import CodeStyle.Source
import CodeStyle.SyntaxTree.Declarator
import CodeStyle.Violation

/-!
# Quantities with limits

Counts that must not exceed a maximum: of the parameters, statements and methods that nodes declare,
of the lines of a file, and of the characters of each line.
-/
namespace CodeStyle

/-- The quantities that are counted at nodes. -/
inductive NodeQuantity
  | methodParameters
  | statements
  | methods
  | functionParameters
deriving DecidableEq, Repr

/-- The quantities that are counted in the text. -/
inductive TextQuantity
  | lines
  | lineLength
deriving DecidableEq, Repr

namespace NodeQuantity

/-- What stands for a name that is not given. -/
def noName : String := "<anonymous>"

/-- The kinds of the nodes at which a quantity is counted. -/
def kinds : NodeQuantity → List String
  | methodParameters => ["method_declaration"]
  | statements => ["method_declaration"]
  | methods => ["class_declaration", "interface_declaration"]
  | functionParameters => ["function_definition"]

def countKinds (kinds : List String) (t : SyntaxTree) : Nat :=
  (t.namedChildren.filter fun c => kinds.contains c.kind).length

/-- Whether a parameter of C is the word that stands for no parameters. -/
def isVoid (s : Source) (t : SyntaxTree) : Bool :=
  (t.field? "declarator").isNone && (t.field? "type").any fun c => s.stringOf c == "void"

/-- The number of parameters that a list of C declares. -/
def countParameters (s : Source) (list : SyntaxTree) : Nat :=
  match list.namedChildren.filter fun c =>
      ["parameter_declaration", "variadic_parameter"].contains c.kind with
  | [single] => if isVoid s single then 0 else 1
  | declared => declared.length

/-- The count at a node, if there is anything to count. -/
def count? (q : NodeQuantity) (s : Source) (t : SyntaxTree) : Option Nat :=
  match q with
  | methodParameters =>
    (t.field? "parameters").map (countKinds ["formal_parameter", "spread_parameter"])
  | statements => (t.field? "body").map (·.codeChildren.length)
  | methods => (t.field? "body").map (countKinds ["method_declaration"])
  | functionParameters =>
    (t.definedFunction?.bind (·.field? "parameters")).map (countParameters s)

/-- The name of what a node declares. -/
def nameOf (q : NodeQuantity) (s : Source) (t : SyntaxTree) : String :=
  match (if q = functionParameters then t.functionName? else t.field? "name") with
  | some n => s.stringOf n
  | none => noName

def message (q : NodeQuantity) (name : String) (count max : Nat) : String :=
  match q with
  | methodParameters =>
    s!"Method '{name}' has {count} parameters. More than the allowed maximum of {max}"
  | statements => s!"Method '{name}' is too long ({count} statements, maximum {max})"
  | methods => s!"Class {name} has {count} methods. More than the maximum of {max}"
  | functionParameters =>
    s!"Function '{name}' has {count} parameters. More than the allowed maximum of {max}"

def visit (q : NodeQuantity) (max : Nat) (s : Source) (t : SyntaxTree) : List Violation :=
  if q.kinds.contains t.kind then
    match q.count? s t with
    | some n => if n ≤ max then [] else [⟨s.path, s.line t, q.message (q.nameOf s t) n max⟩]
    | none => []
  else []

end NodeQuantity

namespace TextQuantity

def tooManyLines (path : String) (count max : Nat) : String :=
  s!"File '{path}' has more than the maximum amount of lines ({count} instead of max {max}). " ++
    "Keep files small so that concerns are separated."

def lineTooLong (path : String) (line length max : Nat) : String :=
  s!"File '{path}' has a line too long at line {line} ({length} characters, maximum {max})."

/-- The violations in a list of lines whose first has a number. -/
def longLines (path : String) (max : Nat) : (number : Nat) → List (List Char) → List Violation
  | _, [] => []
  | number, line :: rest =>
    if line.length ≤ max then longLines path max (number + 1) rest
    else ⟨path, number, lineTooLong path number line.length max⟩ ::
      longLines path max (number + 1) rest

def inspect (q : TextQuantity) (max : Nat) (s : Source) : List Violation :=
  match q with
  | lines =>
    let n := s.lines.length
    if n ≤ max then [] else [.ofFile s.path (tooManyLines s.path n max)]
  | lineLength => longLines s.path max 1 s.lines

end TextQuantity

end CodeStyle

/-!
# Paths

A path is kept as it is written and compared by its components: repeated separators, a separator
at the end and dots inside a path make no difference, a dot in front does.

A path is a text. Paths of a system that are not UTF-8 are none of the paths here.
-/
namespace CodeStyle

/-- A component of a path. The order of the constructors is the order of components. -/
inductive PathPart
  | root
  | here
  | up
  | name (text : String)
deriving DecidableEq, Repr

namespace PathPart

/-- The place of a component among the kinds of components. -/
def rank : PathPart → Nat
  | root => 0
  | here => 1
  | up => 2
  | name _ => 3

/-- Components compare by kind, names by their characters. -/
def compare : PathPart → PathPart → Ordering
  | name a, name b => Ord.compare a b
  | a, b => Ord.compare a.rank b.rank

end PathPart

namespace Path

/-- The pieces of a path between separators. -/
def pieces (path : String) : List String := (path.toList.splitOn '/').map String.ofList

/-- The component that a piece inside a path stands for, if it stands for any. -/
def inner? (piece : String) : Option PathPart :=
  if piece = "" || piece = "." then none
  else if piece = ".." then some .up
  else some (.name piece)

def parts (path : String) : List PathPart :=
  match pieces path with
  | [] => []
  | first :: rest =>
    let inside := rest.filterMap inner?
    if first = "" then if rest.isEmpty then [] else .root :: inside
    else if first = "." then .here :: inside
    else (inner? first).toList ++ inside

/-- Lists of components compare like words. -/
def compareParts : List PathPart → List PathPart → Ordering
  | [], [] => .eq
  | [], _ :: _ => .lt
  | _ :: _, [] => .gt
  | a :: as, b :: bs => (a.compare b).then (compareParts as bs)

def compare (a b : String) : Ordering := compareParts (parts a) (parts b)

def same (a b : String) : Bool := parts a == parts b

def fileName? (path : String) : Option String :=
  match (parts path).getLast? with
  | some (.name text) => some text
  | _ => none

/-- What follows the last dot of a name, unless the name starts with that dot. -/
def extensionOf? (name : String) : Option String :=
  match name.toList.reverse.span (· != '.') with
  | (after, _ :: _ :: _) => some (String.ofList after.reverse)
  | _ => none

def extension? (path : String) : Option String := (fileName? path).bind extensionOf?

/-- A path below another. -/
def join (base name : String) : String :=
  if base = "" || base.endsWith "/" then base ++ name else base ++ "/" ++ name

end Path

end CodeStyle

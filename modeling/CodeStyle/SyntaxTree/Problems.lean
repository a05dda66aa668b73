import CodeStyle.Source

/-!
# Problems of a tree

A text does not parse if the root of its tree has an error. The problems are the topmost missing or
erroneous nodes that flagged nodes lead to; at most ten are collected.
-/
namespace CodeStyle
namespace SyntaxTree

def maximumProblems : Nat := 10

/-- The kind of a node that stands for text outside the grammar. -/
def errorKind : String := "ERROR"

/-- Whether a node is a problem of its own. -/
def isProblem (t : SyntaxTree) : Bool := t.info.isMissing || t.kind == errorKind

/-- Whether a node is a problem or may have one below it. -/
def isFlagged (t : SyntaxTree) : Bool := t.info.hasError || t.info.isMissing

mutual

def problems : SyntaxTree → List SyntaxTree
  | node i cs => if isProblem (node i cs) then [node i cs] else problemsIn cs

/-- All problems below the flagged ones of some children. -/
def problemsIn : List SyntaxTree → List SyntaxTree
  | [] => []
  | c :: cs => if isFlagged c then problems c ++ problemsIn cs else problemsIn cs

end

mutual

/-- The problems already found and those of a tree, unless enough have been found. -/
def collect (found : List SyntaxTree) : SyntaxTree → List SyntaxTree
  | node i cs =>
    if maximumProblems ≤ found.length then found
    else if isProblem (node i cs) then found ++ [node i cs]
    else collectIn found cs

/-- The problems already found and those below some children. -/
def collectIn (found : List SyntaxTree) : List SyntaxTree → List SyntaxTree
  | [] => found
  | c :: cs => if isFlagged c then collectIn (collect found c) cs else collectIn found cs

end

end SyntaxTree

namespace Source

def problemText (s : Source) (t : SyntaxTree) : String :=
  let p := s.start t
  let place := s!"line {p.line}, col {p.column}: "
  if t.info.isMissing then place ++ "missing `" ++ t.kind ++ "`"
  else place ++ "unexpected `" ++ String.ofList (Text.trim ((s.textOf t).take 20)) ++ "`"

/-- Whether the text parses. -/
def parses (s : Source) : Bool := !s.tree.info.hasError

/-- The wordings of the problems of a source, the first few of them. -/
def problemTexts (s : Source) : List String := (SyntaxTree.collect [] s.tree).map s.problemText

/-- The problems of a source in one line. -/
def problemLine (s : Source) : String := "[" ++ String.intercalate ", " s.problemTexts ++ "]"

end Source

end CodeStyle

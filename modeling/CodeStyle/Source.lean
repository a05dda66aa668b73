import CodeStyle.SyntaxTree.Basic
import CodeStyle.Text.Lines
import CodeStyle.Text.Position

/-!
# Sources

A source is a text with its tree. Nodes have positions and a text only relative to a source.
-/
namespace CodeStyle

/-- A file with its text and its tree. -/
structure Source where
  path : String
  text : List Char
  tree : SyntaxTree

namespace Source

/-- The text that a node covers, nothing if its range does not fit the text. -/
def textOf (s : Source) (t : SyntaxTree) : List Char :=
  (Text.slice? s.text t.info.start t.info.stop).getD []

def stringOf (s : Source) (t : SyntaxTree) : String := String.ofList (s.textOf t)

/-- The position of the first character of a node. -/
def start (s : Source) (t : SyntaxTree) : Position := Text.startPosition s.text t.info.start

/-- The position of the last character of a node. -/
def stop (s : Source) (t : SyntaxTree) : Position := Text.stopPosition s.text t.info.stop

def span (s : Source) (t : SyntaxTree) : Span := ⟨s.start t, s.stop t⟩

def line (s : Source) (t : SyntaxTree) : Nat := (s.start t).line

def lines (s : Source) : List (List Char) := Text.lines s.text

end Source

end CodeStyle

import CodeStyle.Rule.Basic
import CodeStyle.Rule.Indentation
import CodeStyle.Rule.Layout
import CodeStyle.Rule.Limit
import CodeStyle.Rule.Naming
import CodeStyle.SyntaxTree.Walk

/-!
# Criteria

What a rule demands, with the value that a configuration can change: a pattern for names, a
maximum for a quantity, a width for indentation. The demands on layout have no such value.
-/
namespace CodeStyle

/-- What a rule demands of a source. -/
inductive Criterion
  | naming (subject : NameSubject) (key pattern : String)
  | counting (quantity : NodeQuantity) (key : String) (max : Nat)
  | measuring (quantity : TextQuantity) (key : String) (max : Nat)
  | indenting (key : String) (width : Nat)
  | laying (layout : Layout)
deriving DecidableEq, Repr

/-- A value that a configuration can change. -/
inductive OptionValue
  | text (s : String)
  | number (n : Nat)
deriving DecidableEq, Repr

namespace Criterion

/-- The key of the value that can be changed, if there is one, and the value. -/
def option? : Criterion → Option (String × OptionValue)
  | naming _ key pattern => some (key, .text pattern)
  | counting _ key max => some (key, .number max)
  | measuring _ key max => some (key, .number max)
  | indenting key width => some (key, .number width)
  | laying _ => none

def withText : Criterion → String → Criterion
  | naming subject key _, pattern => naming subject key pattern
  | c, _ => c

def withNumber : Criterion → Nat → Criterion
  | counting quantity key _, n => counting quantity key n
  | measuring quantity key _, n => measuring quantity key n
  | indenting key _, n => indenting key n
  | c, _ => c

/-- The wording for a number that has to be positive. -/
def notPositive (key : String) : String := key ++ " must be at least 1"

/-- The check of a criterion for a language, unless its value makes no sense. -/
def check (language : Language) : Criterion → Except CheckError Check
  | naming subject _ pattern =>
    (NamePattern.read pattern).map fun p =>
      .ofSource fun _ s => s.tree.walk fun t => .ok (subject.visit p s t)
  | counting quantity _ max =>
    .ok (.ofSource fun _ s => s.tree.walk fun t => .ok (quantity.visit max s t))
  | measuring quantity _ max => .ok (.ofSource fun _ s => .ok (quantity.inspect max s))
  | indenting key width =>
    if width = 0 then .error (.configuration (notPositive key))
    else .ok (.ofSource fun _ s => .ok (Indentation.inspect width s))
  | laying layout =>
    .ok (.ofSource fun disk s =>
      s.tree.walk (layout.visit language (disk.excerpt s.path) s))

end Criterion

end CodeStyle

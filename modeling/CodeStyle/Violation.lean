import CodeStyle.Path

/-!
# Violations

A violation says where a rule was broken and how. Violations are ordered by the components of the
path, then by line, then by message; violations that are equal in all three may still write their
paths in different ways.
-/
namespace CodeStyle

/-- A violation in a line of a file. Line 0 stands for the file as a whole. -/
structure Violation where
  file : String
  line : Nat
  message : String
deriving DecidableEq, Repr

namespace Violation

/-- A violation by a file as a whole. -/
def ofFile (file message : String) : Violation := ⟨file, 0, message⟩

/-- Whether a violation concerns a file as a whole. -/
def isFileLevel (v : Violation) : Bool := v.line == 0

/-- Where a violation is, as messages show it. -/
def location (v : Violation) : String := v.file ++ ":" ++ toString v.line

/-- A violation as reports show it. -/
def text (v : Violation) : String := v.message ++ " at " ++ v.location

def compare (a b : Violation) : Ordering :=
  (Path.compare a.file b.file).then
    ((Ord.compare a.line b.line).then (Ord.compare a.message b.message))

def sameLocation (a b : Violation) : Bool := Path.same a.file b.file && a.line == b.line

/-- Whether two violations are equal for all that their order can tell. -/
def same (a b : Violation) : Bool := a.sameLocation b && a.message == b.message

/-- Whether a violation may stand in front of another. -/
def le (a b : Violation) : Bool := (a.compare b).isLE

/-- Violations in order; equal ones keep their places relative to each other. -/
def sort (vs : List Violation) : List Violation := vs.mergeSort le

end Violation

end CodeStyle

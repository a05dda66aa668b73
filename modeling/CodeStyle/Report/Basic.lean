import CodeStyle.Violation

/-!
# Reports

A report holds the violations of a run, the files that could not be read, and numbers about the
run. Sorting puts the violations in order and counts the files that have any.
-/
namespace CodeStyle

/-- Numbers about a run. -/
structure Summary where
  totalFiles : Nat := 0
  filesWithViolations : Nat := 0
  activeRules : Nat := 0
  milliseconds : Nat := 0
deriving DecidableEq, Repr

/-- What a run found. -/
structure Report where
  violations : List Violation := []
  skipped : List String := []
  summary : Summary := { }
deriving DecidableEq, Repr

namespace Report

def add (r : Report) (v : Violation) : Report := { r with violations := r.violations ++ [v] }

/-- A report with one more file that could not be read. -/
def skip (r : Report) (file : String) : Report := { r with skipped := r.skipped ++ [file] }

def hasViolations (r : Report) : Bool := !r.violations.isEmpty

def hasSkipped (r : Report) : Bool := !r.skipped.isEmpty

def forFile (r : Report) (file : String) : List Violation :=
  r.violations.filter fun v => Path.same v.file file

/-- Violations of one file, under the path with which it comes up first. -/
structure FileGroup where
  file : String
  violations : List Violation

/-- Adds a violation to the group of its file. -/
def place (v : Violation) : List FileGroup → List FileGroup
  | [] => [⟨v.file, [v]⟩]
  | g :: rest =>
    match Path.compare v.file g.file with
    | .lt => ⟨v.file, [v]⟩ :: g :: rest
    | .eq => ⟨g.file, g.violations ++ [v]⟩ :: rest
    | .gt => g :: place v rest

/-- Violations by file, the files in order, the violations of a file in the order given. -/
def groups (vs : List Violation) : List FileGroup := vs.foldl (fun gs v => place v gs) []

/-- The number of different files among violations. -/
def countFiles (vs : List Violation) : Nat := (groups vs).length

/-- A report with its violations in order and its files counted. -/
def sort (r : Report) : Report :=
  let vs := Violation.sort r.violations
  { r with violations := vs, summary := { r.summary with filesWithViolations := countFiles vs } }

/-- The violations that are shown if at most so many may be. -/
def shown (r : Report) (max : Option Nat) : List Violation :=
  match max with
  | some n => r.violations.take n
  | none => r.violations

end Report

end CodeStyle

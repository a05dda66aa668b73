import CodeStyle.Rule.Basic

/-!
# Runs over files

All rules for the language of a file are run on it, also behind one that fails; of the failures the
first is kept. The results of the files are taken in their order: the violations are collected, and
a failure either ends the run or leaves the file out. Files may be checked in any order and at the
same time, as long as the results are put back in the order of the files.
-/
namespace CodeStyle

/-- What the rules make of one file. -/
structure FileOutcome where
  violations : List Violation := []
  failure : Option CheckError := none

namespace FileOutcome

def add (o : FileOutcome) : Except CheckError (List Violation) → FileOutcome
  | .ok vs => { o with violations := o.violations ++ vs }
  | .error e => { o with failure := some (o.failure.getD e) }

def ofRules (rules : List Rule) (disk : Disk) (path : String) : FileOutcome :=
  rules.foldl (fun o rule => o.add (rule.check disk path)) { }

def result (o : FileOutcome) : Except CheckError (List Violation) :=
  match o.failure with
  | some e => .error e
  | none => .ok o.violations

end FileOutcome

/-- The violations of a run and the files that were left out. -/
structure Findings where
  violations : List Violation := []
  skipped : List String := []
deriving DecidableEq, Repr

namespace Findings

/-- Findings with those of one more file. Only a file that could not be read is left out, and only
if the run does not end at the first failure. -/
def absorb (failFast : Bool) (f : Findings) (path : String) (o : FileOutcome) :
    Except CheckError Findings :=
  let violations := f.violations ++ o.violations
  match o.failure with
  | none => .ok ⟨violations, f.skipped⟩
  | some e =>
    if failFast || !e.isUnreadableFile then .error e else .ok ⟨violations, f.skipped ++ [path]⟩

/-- Findings with those of files whose outcomes are known. -/
def absorbAll (failFast : Bool) (f : Findings) :
    List (String × FileOutcome) → Except CheckError Findings
  | [] => .ok f
  | (path, o) :: rest =>
    match f.absorb failFast path o with
    | .ok f => f.absorbAll failFast rest
    | .error e => .error e

/-- Findings with those of files that are checked one after the other, up to the first whose failure
ends the run. -/
def checkEach (failFast : Bool) (outcome : String → FileOutcome) (f : Findings) :
    List String → Except CheckError Findings
  | [] => .ok f
  | path :: rest =>
    match f.absorb failFast path (outcome path) with
    | .ok f => f.checkEach failFast outcome rest
    | .error e => .error e

/-- The result of a file with the place of the file in the run. -/
abbrev Finished := Nat × (String × FileOutcome)

def inFileOrder (finished : List Finished) : List (String × FileOutcome) :=
  (finished.mergeSort fun a b => a.1 ≤ b.1).map (·.2)

/-- The findings of files whose results come in any order. -/
def ofFinished (failFast : Bool) (finished : List Finished) : Except CheckError Findings :=
  absorbAll failFast { } (inFileOrder finished)

/-- Starts the checks of all files at once. -/
def startAll (outcome : String → FileOutcome) (paths : List String) : List (Task Finished) :=
  paths.zipIdx.map fun (path, place) => Task.spawn fun _ => (place, path, outcome path)

/-- The findings of files that are checked at the same time. -/
def checkTogether (failFast : Bool) (outcome : String → FileOutcome) (paths : List String) :
    Except CheckError Findings :=
  ofFinished failFast ((startAll outcome paths).map Task.get)

end Findings

end CodeStyle

import CodeStyle.Analysis.Discovery
import CodeStyle.Analysis.Run
import CodeStyle.Config.RuleSet
import CodeStyle.Report.Basic

/-!
# Analyzers

An analyzer runs a rule set over files and folders. It is built from a document with the default
filter or from parts of its own.
-/
namespace CodeStyle

/-- How an analyzer runs. -/
structure AnalysisOptions where
  parallel : Bool := true
  maxFiles : Option Nat := none
  failFast : Bool := false
  exclude : List String := []
deriving DecidableEq, Repr

/-- Rules with the filter for the files that they run on. -/
structure Analyzer where
  rules : Config.RuleSet
  filter : PathFilter
  options : AnalysisOptions

namespace Analyzer

/-- An analyzer whose options extend a filter. -/
def make (rules : Config.RuleSet) (filter : PathFilter) (options : AnalysisOptions) :
    Except CheckError Analyzer :=
  (filter.addAll options.exclude).map fun filter => ⟨rules, filter, options⟩

/-- The analyzer of a document with the registered rules and the default filter. -/
def ofDocument (d : Config.Document) (options : AnalysisOptions) : Except CheckError Analyzer :=
  match Config.resolve Registry.all d with
  | .ok rules => make rules .default options
  | .error e => .error e

/-- The outcome of the rules for a file. Files in no known language have none. -/
def outcome (a : Analyzer) (disk : Disk) (path : String) : FileOutcome :=
  match Language.ofPath? path with
  | some language => .ofRules (a.rules.forLanguage language) disk path
  | none => { }

def findings (a : Analyzer) (disk : Disk) (paths : List String) : Except CheckError Findings :=
  if a.options.parallel && 1 < paths.length then
    Findings.checkTogether a.options.failFast (a.outcome disk) paths
  else ({ } : Findings).checkEach a.options.failFast (a.outcome disk) paths

def discover (a : Analyzer) (disk : Disk) (root : String) : List String :=
  disk.discover a.filter root

/-- The violations at or below a path, in the order of the files. -/
def analyze (a : Analyzer) (disk : Disk) (root : String) : Except CheckError (List Violation) :=
  (a.findings disk (disk.filesUnder a.filter root)).map (·.violations)

/-- The violations in a file. -/
def analyzeFile (a : Analyzer) (disk : Disk) (path : String) :
    Except CheckError (List Violation) :=
  (a.outcome disk path).result

/-- The files to check for some paths, as many as the options allow. -/
def filesFor (a : Analyzer) (disk : Disk) (paths : List String) : List String :=
  let files := paths.flatMap (disk.filesUnder a.filter)
  match a.options.maxFiles with
  | some n => files.take n
  | none => files

def reportOn (a : Analyzer) (f : Findings) (files : Nat) : Report :=
  Report.sort ⟨f.violations, f.skipped, { totalFiles := files, activeRules := a.rules.size }⟩

def checkPaths (a : Analyzer) (disk : Disk) (paths : List String) : Except CheckError Report :=
  let files := a.filesFor disk paths
  (a.findings disk files).map fun f => a.reportOn f files.length

def checkFolder (a : Analyzer) (disk : Disk) (root : String) : Except CheckError Report :=
  a.checkPaths disk [root]

/-- The report on a single file. A failure of any rule is an error. -/
def checkFile (a : Analyzer) (disk : Disk) (path : String) : Except CheckError Report :=
  (a.analyzeFile disk path).map fun vs =>
    a.reportOn { violations := vs } (Language.ofPath? path).toList.length

end Analyzer

end CodeStyle

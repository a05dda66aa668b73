import CodeStyle.Analysis.Analyzer
import CodeStyle.Proofs.Analysis.Run
import CodeStyle.Proofs.Disk.Read
import CodeStyle.Proofs.Except
import CodeStyle.Rule.Basic

/-!
# Errors that end an analysis

Whether files are checked at the same time or one after the other, an analysis ends with an error if
there is a file on which the first rule that fails does so with an error that is not skipped. A rule
that fails later on the same file has no say in it.
-/
namespace CodeStyle.Analyzer

variable {a : Analyzer} {disk : Disk} {e : CheckError}

/-- The rules that are run on a file. -/
def rulesFor (a : Analyzer) (path : String) : List Rule :=
  match Language.ofPath? path with
  | some language => a.rules.forLanguage language
  | none => []

/-- The error of the first rule that fails on a file. -/
def firstFailure? (a : Analyzer) (disk : Disk) (path : String) : Option CheckError :=
  (a.rulesFor path).findSome? (·.failure? disk path)

/-- All rules in front of the first that fails succeed. -/
theorem firstFailure?_eq_some_iff {path : String} :
    a.firstFailure? disk path = some e ↔ ∃ before r after, a.rulesFor path = before ++ r :: after ∧
      r.check disk path = .error e ∧ ∀ x ∈ before, ∃ vs, x.check disk path = .ok vs := by
  simp only [firstFailure?, List.findSome?_eq_some_iff, Rule.failure?_eq_some_iff,
    Rule.failure?_eq_none_iff]

theorem failure_outcome (path : String) :
    (a.outcome disk path).failure = a.firstFailure? disk path := by
  unfold outcome firstFailure? rulesFor
  cases Language.ofPath? path with
  | some language => exact FileOutcome.failure_ofRules _
  | none => rfl

/-- Both ways of checking files make the same of their outcomes. -/
theorem findings_eq_absorbAll (paths : List String) :
    a.findings disk paths = Findings.absorbAll a.options.failFast { }
      (paths.map fun path => (path, a.outcome disk path)) := by
  unfold findings
  split
  · exact Findings.checkTogether_eq_absorbAll _ _
  · exact Findings.checkEach_eq_absorbAll _ _ _

theorem findings_eq_error_iff {paths : List String} :
    a.findings disk paths = .error e ↔
      paths.findSome? (fun path => (a.outcome disk path).ending? a.options.failFast) = some e := by
  rw [findings_eq_absorbAll, Findings.absorbAll_eq_error_iff, List.findSome?_map]
  rfl

/-- Whether an error of the first rule that fails on a file ends an analysis. -/
def IsFatal (a : Analyzer) (e : CheckError) : Prop :=
  a.options.failFast = true ∨ e.isUnreadableFile = false

theorem ending?_outcome_eq_some_iff {path : String} :
    (a.outcome disk path).ending? a.options.failFast = some e ↔
      a.firstFailure? disk path = some e ∧ a.IsFatal e := by
  rw [FileOutcome.ending?, failure_outcome, Option.filter_eq_some_iff, IsFatal]
  simp

theorem ending?_outcome_eq_none_iff {path : String} :
    (a.outcome disk path).ending? a.options.failFast = none ↔
      ∀ e, a.firstFailure? disk path = some e → ¬ a.IsFatal e := by
  simp only [Option.eq_none_iff_forall_ne_some, ne_eq, ending?_outcome_eq_some_iff, not_and]

/-- An analysis ends with the error of the first file that has one that ends it. -/
theorem findings_eq_error_iff_exists_first {paths : List String} :
    a.findings disk paths = .error e ↔ ∃ before path after, paths = before ++ path :: after ∧
      a.firstFailure? disk path = some e ∧ a.IsFatal e ∧
      ∀ earlier ∈ before, ∀ e', a.firstFailure? disk earlier = some e' → ¬ a.IsFatal e' := by
  simp only [findings_eq_error_iff, List.findSome?_eq_some_iff, ending?_outcome_eq_some_iff,
    ending?_outcome_eq_none_iff, and_assoc]

theorem exists_findings_eq_error_iff {paths : List String} :
    (∃ e, a.findings disk paths = .error e) ↔
      ∃ path ∈ paths, ∃ e, a.firstFailure? disk path = some e ∧ a.IsFatal e := by
  simp only [findings_eq_error_iff, ← ending?_outcome_eq_some_iff, ← Option.isSome_iff_exists,
    List.findSome?_isSome_iff]

/-- An analysis ends with an error if there is a file on which the first rule that fails does so
with an error that is not skipped. -/
theorem exists_analysis_eq_error_iff (a : Analyzer) (disk : Disk) :
    (∀ root, (∃ e, a.analyze disk root = .error e) ↔
      ∃ path ∈ disk.filesUnder a.filter root,
        ∃ e, a.firstFailure? disk path = some e ∧ a.IsFatal e) ∧
    ∀ paths, (∃ e, a.checkPaths disk paths = .error e) ↔
      ∃ path ∈ a.filesFor disk paths, ∃ e, a.firstFailure? disk path = some e ∧ a.IsFatal e := by
  simp only [analyze, checkPaths, Except.map_eq_error_iff, exists_findings_eq_error_iff,
    implies_true, and_self]

section Hidden

/-- The rule about the number of lines, as it is registered. -/
def maxLines : Rule :=
  ⟨"MaxLinesJavaRule", .java, true, .ofSource fun _ s => .ok (TextQuantity.inspect .lines 2000 s)⟩

/-- A rule that quotes a span that ends before it starts. -/
def backwards : Rule := .quoting .java true ⟨⟨2, 1⟩, ⟨1, 1⟩⟩

/-- A disk with a file that cannot be read. -/
def brokenDisk : Disk := ⟨[.device "A.java"]⟩

theorem find_brokenDisk : brokenDisk.find true "A.java" = .ok (.device "A.java") :=
  Disk.find_eq_ok_of_entry (by decide) (by decide) rfl fun _ _ => Entry.noConfusion

theorem check_maxLines_brokenDisk : maxLines.check brokenDisk "A.java" =
    .error (.analysis "A.java" "Failed to read file: Input/output error (os error 5)") := by
  simp only [maxLines, Check.ofSource, Disk.source, Disk.read, find_brokenDisk]
  rfl

theorem check_backwards_brokenDisk : backwards.check brokenDisk "A.java" =
    .error (.extraction "A.java" "invalid span 2:1..1:1") := by
  simp only [backwards, Rule.quoting, Disk.excerpt, Disk.lines, find_brokenDisk]
  rfl

theorem filesUnder_brokenDisk (filter : PathFilter) :
    brokenDisk.filesUnder filter "A.java" = ["A.java"] := by
  simp [Disk.filesUnder, Disk.isFile, find_brokenDisk, Entry.isFile]

/-- The case of letters makes no difference in an extension without capitals. -/
theorem ofPath?_of_extension {path extension : String}
    (h : Path.extension? path = some extension)
    (hlower : extension.toList.map Char.toLower = extension.toList) :
    Language.ofPath? path =
      if extension = "java" then some .java
      else if extension = "c" ∨ extension = "h" then some .native else none := by
  have hsame : extension.map Char.toLower = extension :=
    String.toList_injective (by rw [String.toList_map, hlower])
  rw [Language.ofPath?, h, Option.bind_some, Language.ofExtension?, hsame]
  split <;> simp_all

theorem ofPath?_java : Language.ofPath? "A.java" = some .java := by
  have hextension : Path.extension? "A.java" = some "java" := rfl
  rw [ofPath?_of_extension hextension (by decide), if_pos rfl]

def brokenAnalyzer (rules : List Rule) : Analyzer := ⟨⟨rules, []⟩, .default, { }⟩

theorem analyze_brokenDisk_eq (rules : List Rule) :
    (brokenAnalyzer rules).analyze brokenDisk "A.java" =
      ((Findings.absorb false { } "A.java" (.ofRules rules brokenDisk "A.java")).map
        (·.violations)) := by
  have houtcome : (brokenAnalyzer rules).outcome brokenDisk "A.java" =
      .ofRules rules brokenDisk "A.java" := by
    rw [outcome, ofPath?_java]
    rfl
  rw [analyze, filesUnder_brokenDisk, findings_eq_absorbAll, List.map_singleton, houtcome,
    Findings.absorbAll]
  cases h : Findings.absorb false { } "A.java" (.ofRules rules brokenDisk "A.java") <;>
    simp [brokenAnalyzer, h, Findings.absorbAll]

/-- A failure that is skipped hides one that is not if its rule comes first. -/
theorem analyze_brokenDisk :
    (RuleEntry.java "MaxLines" (.measuring .lines "maxLines" 2000)).build none = .ok maxLines ∧
      backwards.check brokenDisk "A.java" = .error (.extraction "A.java" "invalid span 2:1..1:1") ∧
      (brokenAnalyzer [backwards, maxLines]).analyze brokenDisk "A.java" =
        .error (.extraction "A.java" "invalid span 2:1..1:1") ∧
      (brokenAnalyzer [maxLines, backwards]).analyze brokenDisk "A.java" = .ok [] := by
  refine ⟨rfl, check_backwards_brokenDisk, ?_, ?_⟩
  all_goals
    rw [analyze_brokenDisk_eq, FileOutcome.ofRules, List.foldl_cons, List.foldl_cons,
      check_backwards_brokenDisk, check_maxLines_brokenDisk]
    rfl

end Hidden

end CodeStyle.Analyzer

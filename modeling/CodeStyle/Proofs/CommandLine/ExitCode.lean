import CodeStyle.Proofs.Analysis.Composition
import CodeStyle.Proofs.Analysis.Discovery
import CodeStyle.Proofs.Analysis.Rules
import CodeStyle.Proofs.Report.Headline
import CodeStyle.Proofs.Rule.Check

/-!
# Exit codes of a check

A check ends with 0 if all files that are to be checked for its paths are read by all rules and none
finds anything. A file that a rule cannot check ends it with an error or is listed. A path that
leads nowhere has no files, so it is neither an error nor listed.
-/
namespace CodeStyle

namespace Analyzer

variable {a : Analyzer} {disk : Disk}

/-- A run finds nothing and leaves nothing out if all rules find nothing in all files. -/
theorem exists_clean_report_iff {paths : List String} (hall : a.options.maxFiles = none) :
    (∃ report, a.checkPaths disk paths = .ok report ∧ report.violations = [] ∧
      report.skipped = []) ↔
      ∀ path ∈ paths, ∀ file ∈ disk.filesUnder a.filter path, ∀ r ∈ a.rulesFor file,
        r.check disk file = .ok [] := by
  rw [← List.forall_mem_flatMap]
  constructor
  · rintro ⟨report, hreport, hviolations, hskipped⟩ file hfile r hr
    obtain ⟨-, rfl⟩ := (checkPaths_eq_ok_iff hall).mp hreport
    have hfails : a.fails disk file = false :=
      Bool.eq_false_iff.mpr (List.filter_eq_nil_iff.mp hskipped file hfile)
    obtain ⟨vs, hvs⟩ := fails_eq_false_iff.mp hfails r hr
    have hnone := Violation.sort_eq_nil_iff.mp hviolations
    have hfound := List.flatMap_eq_nil_iff.mp (List.flatMap_eq_nil_iff.mp hnone file hfile) r hr
    simp only [Rule.found, hvs] at hfound
    rw [hvs, hfound]
  · intro hclean
    have hfails : ∀ file ∈ paths.flatMap (disk.filesUnder a.filter), a.fails disk file = false :=
      fun file hfile => fails_eq_false_iff.mpr fun r hr => ⟨[], hclean file hfile r hr⟩
    have hfound : ∀ file ∈ paths.flatMap (disk.filesUnder a.filter),
        (a.rulesFor file).flatMap (·.found disk file) = [] := by
      intro file hfile
      refine List.flatMap_eq_nil_iff.mpr fun r hr => ?_
      rw [Rule.found, hclean file hfile r hr]
    refine ⟨_, (checkPaths_eq_ok_iff hall).mpr ⟨fun file hfile e he => ?_, rfl⟩, ?_, ?_⟩
    · rw [firstFailure?_eq_none_iff.mpr (hfails file hfile)] at he
      contradiction
    · exact Violation.sort_eq_nil_iff.mpr (List.flatMap_eq_nil_iff.mpr hfound)
    · exact List.filter_eq_nil_iff.mpr fun file hfile => Bool.eq_false_iff.mp (hfails file hfile)

/-- A file that a rule cannot check is listed if it does not end the run. -/
theorem mem_skipped_of_fails {paths : List String} {report : Report} {path file : String}
    (hall : a.options.maxFiles = none) (h : a.checkPaths disk paths = .ok report)
    (hpath : path ∈ paths) (hfile : file ∈ disk.filesUnder a.filter path)
    (hfails : a.fails disk file = true) : file ∈ report.skipped := by
  obtain ⟨-, rfl⟩ := (checkPaths_eq_ok_iff hall).mp h
  exact List.mem_filter.mpr ⟨List.mem_flatMap.mpr ⟨path, hpath, hfile⟩, hfails⟩

end Analyzer

namespace CommandLine

variable {env : Environment} {config : Option String} {colors : Bool} {paths : List String}
  {format : OutputFormat} {max : Option Nat} {options : AnalysisOptions}

/-- The paths of a check, the working directory if none are given. -/
def givenPaths (paths : List String) : List String := if paths.isEmpty then ["."] else paths

/-- A check ends with 0 if it is run at all and its report has neither violations nor files that
are left out. -/
theorem code_runCheck_eq_zero_iff :
    (runCheck env config colors paths format max options).code = 0 ↔
      ∃ d a, loadDocument env config = .ok d ∧ Analyzer.ofDocument d options = .ok a ∧
        ∃ report, a.checkPaths env.disk (givenPaths paths) = .ok report ∧
          report.violations = [] ∧ report.skipped = [] := by
  constructor
  · intro hzero
    simp only [runCheck] at hzero
    split at hzero
    · rename_i o hdocument
      rw [(failed_of_loadDocument hdocument).1] at hzero
      contradiction
    · rename_i d hdocument
      split at hzero
      · contradiction
      · rename_i a hanalyzer
        split at hzero
        · contradiction
        · rename_i report hreport
          refine ⟨d, a, hdocument, hanalyzer, report, hreport, ?_⟩
          simpa [Report.hasViolations, Report.hasSkipped] using hzero
  · rintro ⟨d, a, hdocument, hanalyzer, report, hreport, hviolations, hskipped⟩
    rw [givenPaths] at hreport
    simp only [runCheck, hdocument, hanalyzer, hreport, Report.hasViolations, Report.hasSkipped,
      hviolations, hskipped]
    rfl

theorem code_runCheck_eq_zero_or_one :
    (runCheck env config colors paths format max options).code = 0 ∨
      (runCheck env config colors paths format max options).code = 1 := by
  rcases runCheck_cases env config colors paths format max options with
    ⟨hcode, -⟩ | ⟨report, houtcome⟩
  · exact .inr hcode
  · rw [houtcome]
    by_cases hclean : report.violations = [] ∧ report.skipped = []
    · exact .inl (if_pos hclean)
    · exact .inr (if_neg hclean)

/-- A check of all files ends with 0 if it is run at all and no rule finds anything in any file. -/
theorem code_runCheck_eq_zero_iff_forall (hall : options.maxFiles = none) :
    (runCheck env config colors paths format max options).code = 0 ↔
      ∃ d a, loadDocument env config = .ok d ∧ Analyzer.ofDocument d options = .ok a ∧
        ∀ path ∈ givenPaths paths, ∀ file ∈ env.disk.filesUnder a.filter path,
          ∀ r ∈ a.rulesFor file, r.check env.disk file = .ok [] := by
  refine code_runCheck_eq_zero_iff.trans (exists_congr fun d => exists_congr fun a => ?_)
  refine and_congr_right fun _ => and_congr_right fun ha => ?_
  have hoptions : a.options = options := (Analyzer.rules_and_options_of_ofDocument_eq_ok ha).2
  exact Analyzer.exists_clean_report_iff (hoptions ▸ hall)

/-- A check of a file that a rule cannot check ends with 1, and the file is listed unless the check
fails with a message. -/
theorem code_runCheck_of_check_eq_error {d : Config.Document} {a : Analyzer} {path file : String}
    {r : Rule} {e : CheckError} (hall : options.maxFiles = none)
    (hdocument : loadDocument env config = .ok d) (ha : Analyzer.ofDocument d options = .ok a)
    (hpath : path ∈ givenPaths paths) (hfile : file ∈ env.disk.filesUnder a.filter path)
    (hr : r ∈ a.rulesFor file) (he : r.check env.disk file = .error e) :
    (runCheck env config colors paths format max options).code = 1 ∧
      ((runCheck env config colors paths format max options).failure.isSome = true ∨
        ∃ report, a.checkPaths env.disk (givenPaths paths) = .ok report ∧
          file ∈ report.skipped) := by
  constructor
  · refine code_runCheck_eq_zero_or_one.resolve_left fun hzero => ?_
    obtain ⟨d', a', hdocument', ha', hclean⟩ := (code_runCheck_eq_zero_iff_forall hall).mp hzero
    obtain rfl := Except.ok.inj (hdocument.symm.trans hdocument')
    obtain rfl := Except.ok.inj (ha.symm.trans ha')
    rw [hclean path hpath file hfile r hr] at he
    contradiction
  · cases hreport : a.checkPaths env.disk (givenPaths paths) with
    | error err =>
      rw [givenPaths] at hreport
      have houtcome : runCheck env config colors paths format max options =
          .failed "" "Analysis failed" err := by
        simp only [runCheck, hdocument, ha, hreport]
      exact .inl (houtcome ▸ rfl)
    | ok report =>
      have hoptions : a.options = options := (Analyzer.rules_and_options_of_ofDocument_eq_ok ha).2
      have hfails := Analyzer.fails_eq_true_iff.mpr ⟨r, hr, e, he⟩
      exact .inr ⟨report, rfl,
        Analyzer.mem_skipped_of_fails (hoptions ▸ hall) hreport hpath hfile hfails⟩

/-- A check depends on its paths only by the files to check for them. -/
theorem runCheck_congr {others : List String}
    (h : ∀ filter, (givenPaths paths).flatMap (env.disk.filesUnder filter) =
      (givenPaths others).flatMap (env.disk.filesUnder filter)) :
    runCheck env config colors paths format max options =
      runCheck env config colors others format max options := by
  have hfiles (a : Analyzer) :
      a.checkPaths env.disk (givenPaths paths) = a.checkPaths env.disk (givenPaths others) := by
    simp only [Analyzer.checkPaths, Analyzer.filesFor, h]
  simp only [givenPaths] at hfiles
  simp only [runCheck, hfiles]

/-- A path that leads nowhere leaves no trace in a check of other paths. -/
theorem runCheck_append_cons_of_not_found {before after : List String} {path : String}
    (hothers : before ++ after ≠ []) (h : ∀ e, env.disk.find true path ≠ .ok e) :
    runCheck env config colors (before ++ path :: after) format max options =
      runCheck env config colors (before ++ after) format max options := by
  refine runCheck_congr fun filter => ?_
  have hgiven : givenPaths (before ++ after) = before ++ after := if_neg (by simpa using hothers)
  have hgiven' : givenPaths (before ++ path :: after) = before ++ path :: after :=
    if_neg (by simp)
  rw [hgiven, hgiven', List.flatMap_append, List.flatMap_append, List.flatMap_cons,
    Disk.filesUnder_eq_nil filter h, List.nil_append]

/-- A check ends with 0 exactly if it is run and every rule reads every file to check for its paths
and finds nothing. A file that a rule cannot check is listed, or the check fails with a message. A
path that leads nowhere changes nothing in a check of other paths. -/
theorem exit_code_of_runCheck (env : Environment) (config : Option String) (colors : Bool)
    (paths : List String) (format : OutputFormat) (max : Option Nat) (parallel failFast : Bool)
    (exclude : List String) :
    let options : AnalysisOptions := { parallel, failFast, exclude }
    let outcome := runCheck env config colors paths format max options
    (outcome.code = 0 ∨ outcome.code = 1) ∧
    (outcome.code = 0 ↔ ∃ d a, loadDocument env config = .ok d ∧
      Analyzer.ofDocument d options = .ok a ∧
      ∀ path ∈ givenPaths paths, ∀ file ∈ env.disk.filesUnder a.filter path,
        ∀ r ∈ a.rulesFor file, r.check env.disk file = .ok [] ∧
          ∃ s, env.disk.source file = .ok s ∧ s.parses = true) ∧
    (∀ d a, loadDocument env config = .ok d → Analyzer.ofDocument d options = .ok a →
      ∀ path ∈ givenPaths paths, ∀ file ∈ env.disk.filesUnder a.filter path,
        (∃ r ∈ a.rulesFor file, ∃ e, r.check env.disk file = .error e) →
          outcome.code = 1 ∧ (outcome.failure.isSome = true ∨
            ∃ report, a.checkPaths env.disk (givenPaths paths) = .ok report ∧
              file ∈ report.skipped)) ∧
    ∀ before path after, (∀ e, env.disk.find true path ≠ .ok e) →
      paths = before ++ path :: after → before ++ after ≠ [] →
        outcome = runCheck env config colors (before ++ after) format max options := by
  intro options outcome
  have hall : options.maxFiles = none := rfl
  refine ⟨code_runCheck_eq_zero_or_one, ?_, ?_, ?_⟩
  · refine (code_runCheck_eq_zero_iff_forall hall).trans ?_
    refine exists_congr fun d => exists_congr fun a => ?_
    refine and_congr_right fun _ => and_congr_right fun ha => ?_
    have hrules := (Analyzer.rules_and_options_of_ofDocument_eq_ok ha).1
    refine forall₂_congr fun path _ => forall₂_congr fun file _ => forall₂_congr fun r hr => ?_
    obtain ⟨e, -, hbuild, -⟩ := (Analyzer.mem_rulesFor_iff hrules).mp hr
    exact ⟨fun hclean => ⟨hclean, RuleEntry.exists_source_of_check_eq_ok_nil hbuild hclean⟩,
      And.left⟩
  · rintro d a hdocument ha path hpath file hfile ⟨r, hr, e, he⟩
    exact code_runCheck_of_check_eq_error hall hdocument ha hpath hfile hr he
  · rintro before path after hnowhere rfl hothers
    exact runCheck_append_cons_of_not_found hothers hnowhere

section Missing

def withoutSettings (disk : Disk) : Environment := ⟨disk, fun _ => none, false⟩

theorem loadDocument_withoutSettings {disk : Disk}
    (h : Entry.below? disk.entries ["checker"] = none) :
    loadDocument (withoutSettings disk) none = .ok { } := by
  have hsteps : Disk.steps Config.defaultLocation = ["checker", "config.yaml"] := by decide
  have hfind : disk.find true Config.defaultLocation = .error .missing :=
    Disk.find_eq_error_missing hsteps (by decide) h
  have hlocation : Config.location none ((withoutSettings disk).setting? Config.locationVariable) =
      Config.defaultLocation := rfl
  have hdisk : (withoutSettings disk).disk = disk := rfl
  simp only [loadDocument, hlocation, hdisk, Config.Document.load, Disk.read, hfind]

theorem find_missing_ne_ok {disk : Disk} (h : Entry.below? disk.entries ["missing"] = none)
    (e : Entry) : disk.find true "missing" ≠ .ok e := by
  have hsteps : Disk.steps "missing" = ["missing"] := by decide
  rw [Disk.find_eq_error_missing hsteps (by decide) h]
  nofun

/-- A disk with a file that cannot be read. -/
def lockedDisk : Disk := ⟨[.device "A.java"]⟩

theorem find_lockedDisk : lockedDisk.find true "A.java" = .ok (.device "A.java") :=
  Disk.find_eq_ok_of_entry (by decide) (by decide) rfl fun _ _ => Entry.noConfusion

theorem check_lockedDisk {e : RuleEntry} {check : Check}
    (hcheck : e.criterion.check e.language = .ok check) :
    check lockedDisk "A.java" = .error (Check.unreadable "A.java" .deviceFailure) := by
  obtain ⟨inspect, rfl⟩ := Criterion.exists_ofSource_of_check_eq_ok hcheck
  simp [Check.ofSource, Disk.source, Disk.read, find_lockedDisk]

/-- A check of the file and of a path that leads nowhere ends with 1, as a check of the file does. -/
theorem code_runCheck_lockedDisk :
    (∀ e, lockedDisk.find true "missing" ≠ .ok e) ∧
    (runCheck (withoutSettings lockedDisk) none false ["A.java", "missing"] .human none { }).code =
      1 ∧
    runCheck (withoutSettings lockedDisk) none false ["A.java", "missing"] .human none { } =
      runCheck (withoutSettings lockedDisk) none false ["A.java"] .human none { } := by
  have hmissing : ∀ e, lockedDisk.find true "missing" ≠ .ok e := find_missing_ne_ok rfl
  obtain ⟨-, -, hunread, hnowhere⟩ := exit_code_of_runCheck (withoutSettings lockedDisk) none false
    ["A.java", "missing"] .human none true false []
  refine ⟨hmissing, ?_, hnowhere ["A.java"] "missing" [] hmissing rfl (by simp)⟩
  have hdocument : loadDocument (withoutSettings lockedDisk) none = .ok { } :=
    loadDocument_withoutSettings rfl
  obtain ⟨a, ha⟩ : ∃ a, Analyzer.ofDocument { } { } = .ok a :=
    Analyzer.exists_ofDocument_eq_ok rfl
  have hfiles : lockedDisk.filesUnder a.filter "A.java" = ["A.java"] := by
    simp [Disk.filesUnder, Disk.isFile, find_lockedDisk, Entry.isFile]
  have hfile : "A.java" ∈ lockedDisk.filesUnder a.filter "A.java" :=
    hfiles ▸ List.mem_singleton_self _
  have hregistered : Config.maxLinesEntry ∈ Registry.all := by
    simp [Registry.all, Registry.javaRules, Config.maxLinesEntry]
  obtain ⟨check, hcheck, hbuild⟩ := Registry.exists_build_none_eq_ok hregistered
  have hrules := (Analyzer.rules_and_options_of_ofDocument_eq_ok ha).1
  have hrule := (Analyzer.mem_rulesFor_iff hrules).mpr
    ⟨Config.maxLinesEntry, hregistered, hbuild, Analyzer.ofPath?_java, rfl⟩
  exact (hunread _ a hdocument ha "A.java" (by decide) "A.java" hfile
    ⟨_, hrule, _, check_lockedDisk hcheck⟩).1

/-- A check of nothing but a path that leads nowhere ends with 0. -/
theorem code_runCheck_missing :
    (∀ e, (withoutSettings { }).disk.find true "missing" ≠ .ok e) ∧
      (runCheck (withoutSettings { }) none false ["missing"] .human none { }).code = 0 := by
  have hmissing : ∀ e, (withoutSettings { }).disk.find true "missing" ≠ .ok e :=
    find_missing_ne_ok rfl
  have hdocument : loadDocument (withoutSettings { }) none = .ok { } :=
    loadDocument_withoutSettings rfl
  obtain ⟨a, ha⟩ : ∃ a, Analyzer.ofDocument { } { } = .ok a :=
    Analyzer.exists_ofDocument_eq_ok rfl
  refine ⟨hmissing, (code_runCheck_eq_zero_iff_forall rfl).mpr ⟨_, a, hdocument, ha, ?_⟩⟩
  intro path hpath file hfile
  obtain rfl : path = "missing" := List.mem_singleton.mp hpath
  rw [Disk.filesUnder_eq_nil a.filter hmissing] at hfile
  contradiction

end Missing

end CommandLine

end CodeStyle

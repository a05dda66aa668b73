import CodeStyle.Proofs.Analysis.Report
import Mathlib.Data.List.TakeDrop

/-!
# Entry points of an analysis

A file can be checked on its own or as the only file of a run, a folder can be analyzed with or
without a report. Both ways find the same in the files that both look at. They differ in the number
of files they report, where a file is in no known language, and in the files they look at, where
there are more of them than the options allow.
-/
namespace CodeStyle

theorem FileOutcome.result_eq_ok_iff {o : FileOutcome} {vs : List Violation} :
    o.result = .ok vs ↔ o.failure = none ∧ o.violations = vs := by
  unfold result
  cases o.failure <;> simp

namespace Analyzer

variable {a : Analyzer} {disk : Disk} {path root : String} {paths : List String} {report : Report}

/-- A file can be checked on its own if no rule fails on it. -/
theorem checkFile_eq_ok_iff :
    a.checkFile disk path = .ok report ↔ a.fails disk path = false ∧
      a.reportOn ⟨(a.rulesFor path).flatMap (·.found disk path), []⟩
        (Language.ofPath? path).toList.length = report := by
  simp only [checkFile, analyzeFile, Except.map_eq_ok_iff, FileOutcome.result_eq_ok_iff,
    failure_outcome, firstFailure?_eq_none_iff, violations_outcome, and_assoc, exists_and_left,
    exists_eq_left']

/-- A path that passes for a regular file is the only file to check for it. -/
theorem filesFor_singleton_of_isFile (hall : a.options.maxFiles = none)
    (hfile : disk.isFile path = true) : a.filesFor disk [path] = [path] := by
  simp [filesFor, hall, Disk.filesUnder, hfile]

/-- A file that can be checked on its own can be the only file of a run. The run leaves nothing out
and reports the same. It counts the file even if that is in no known language and nothing is checked
in it; a check of the file alone does not. -/
theorem checkPaths_of_checkFile (hall : a.options.maxFiles = none)
    (hfile : disk.isFile path = true) (h : a.checkFile disk path = .ok report) :
    ∃ run, a.checkPaths disk [path] = .ok run ∧ run.skipped = [] ∧
      run.violations = report.violations ∧
      run.violations.Pairwise (fun v w => v.le w = true) ∧
      run.summary.filesWithViolations = report.summary.filesWithViolations ∧
      run.summary.activeRules = report.summary.activeRules ∧
      (run.summary.totalFiles = report.summary.totalFiles ↔
        ∃ language, Language.ofPath? path = some language) ∧
      (Language.ofPath? path = none →
        run.summary.totalFiles = 1 ∧ report.summary.totalFiles = 0) := by
  obtain ⟨hfails, rfl⟩ := checkFile_eq_ok_iff.mp h
  have hfindings : a.findings disk [path] =
      .ok ⟨(a.rulesFor path).flatMap (·.found disk path), []⟩ := by
    rw [findings_eq_ok_of_fails_eq_false (by simpa using hfails), List.flatMap_singleton]
  have hrun : a.checkPaths disk [path] =
      .ok (a.reportOn ⟨(a.rulesFor path).flatMap (·.found disk path), []⟩ 1) := by
    rw [checkPaths, filesFor_singleton_of_isFile hall hfile, hfindings]
    rfl
  refine ⟨_, hrun, ?_, ?_, Violation.pairwise_sort _, ?_, ?_, ?_, fun hlanguage => ?_⟩
  · simp only [reportOn_skipped]
  · simp only [reportOn_violations]
  · simp only [reportOn_filesWithViolations]
  · simp only [reportOn_activeRules]
  · cases hlanguage : Language.ofPath? path <;> simp
  · simp [hlanguage]

section Latin

/-- A folder with files that hold no text, two of Java and one of notes. -/
def latinDisk : Disk := ⟨[.file "A.java" (.bytes [0xff]), .file "B.java" (.bytes [0xff]),
  .file "notes.md" (.bytes [0xff])]⟩

abbrev latinPaths : List String := ["A.java", "notes.md", "./A.java", "./B.java"]

def latinAnalyzer (maxFiles : Option Nat) : Analyzer := ⟨⟨[maxLines], []⟩, { }, { maxFiles }⟩

theorem find_latinDisk {path : String} (h : path ∈ latinPaths) :
    ∃ name, latinDisk.find true path = .ok (.file name (.bytes [0xff])) := by
  have hA : Disk.steps "./A.java" = [".", "A.java"] := by decide +kernel
  have hB : Disk.steps "./B.java" = [".", "B.java"] := by decide +kernel
  have hlong : Disk.isTooLong "./A.java" = false ∧ Disk.isTooLong "./B.java" = false := by decide
  simp only [latinPaths, List.mem_cons, List.not_mem_nil, or_false] at h
  obtain rfl | rfl | rfl | rfl := h
  · exact ⟨_, Disk.find_eq_ok_of_entry (by decide) (by decide) rfl fun _ _ => Entry.noConfusion⟩
  · exact ⟨_, Disk.find_eq_ok_of_entry (by decide) (by decide) rfl fun _ _ => Entry.noConfusion⟩
  · simp [Disk.find, Disk.route, hA, hlong, Disk.follow, Entry.below?, Entry.isFolder, latinDisk,
      Entry.name]
  · simp [Disk.find, Disk.route, hB, hlong, Disk.follow, Entry.below?, Entry.isFolder, latinDisk,
      Entry.name]

/-- What every rule finds in a file that holds no text. -/
def noText (path : String) : Violation :=
  .ofFile path (Check.unparsed ("[" ++ ReadFault.notText.message ++ "]"))

theorem check_maxLines_latinDisk {path : String} (h : path ∈ latinPaths) :
    maxLines.check latinDisk path = .ok [noText path] := by
  obtain ⟨name, hfind⟩ := find_latinDisk h
  simp [maxLines, Check.ofSource, Disk.source, Disk.read, hfind, noText]

theorem ofPath?_latinDisk :
    Language.ofPath? "./A.java" = some .java ∧ Language.ofPath? "./B.java" = some .java ∧
      Language.ofPath? "./notes.md" = none ∧ Language.ofPath? "notes.md" = none := by
  have hA : Path.extension? "./A.java" = some "java" := rfl
  have hB : Path.extension? "./B.java" = some "java" := rfl
  have hnotes : Path.extension? "./notes.md" = some "md" := rfl
  have hnotes' : Path.extension? "notes.md" = some "md" := rfl
  rw [ofPath?_of_extension hA (by decide), ofPath?_of_extension hB (by decide),
    ofPath?_of_extension hnotes (by decide), ofPath?_of_extension hnotes' (by decide)]
  decide

theorem isFile_latinDisk {path : String} (h : path ∈ latinPaths) :
    latinDisk.isFile path = true := by
  obtain ⟨name, hfind⟩ := find_latinDisk h
  rw [Disk.isFile, hfind]
  rfl

theorem fails_latinAnalyzer (maxFiles : Option Nat) {path : String} (h : path ∈ latinPaths) :
    (latinAnalyzer maxFiles).fails latinDisk path = false := by
  have hrules : ∀ r ∈ (latinAnalyzer maxFiles).rulesFor path, r = maxLines := by
    unfold rulesFor
    rcases Language.ofPath? path with _ | _ | _ <;>
      simp [latinAnalyzer, Config.RuleSet.forLanguage]
  refine fails_eq_false_iff.mpr fun r hr => ?_
  rw [hrules r hr]
  exact ⟨_, check_maxLines_latinDisk h⟩

/-- A file of Java is counted once in both ways. -/
theorem checkPaths_of_checkFile_latinDisk :
    latinDisk.isFile "A.java" = true ∧ ∃ report run,
      (latinAnalyzer none).checkFile latinDisk "A.java" = .ok report ∧
      (latinAnalyzer none).checkPaths latinDisk ["A.java"] = .ok run ∧
      run.violations = [noText "A.java"] ∧ report.violations = [noText "A.java"] ∧
      run.summary.totalFiles = report.summary.totalFiles := by
  have hfile : latinDisk.isFile "A.java" = true := isFile_latinDisk (by decide)
  have hrules : (latinAnalyzer none).rulesFor "A.java" = [maxLines] := by
    rw [rulesFor, ofPath?_java]
    rfl
  have hfails : (latinAnalyzer none).fails latinDisk "A.java" = false :=
    fails_latinAnalyzer none (by decide)
  obtain ⟨report, hreport⟩ : ∃ report, (latinAnalyzer none).checkFile latinDisk "A.java" =
      .ok report := ⟨_, checkFile_eq_ok_iff.mpr ⟨hfails, rfl⟩⟩
  obtain ⟨run, hrun, -, hviolations, -, -, -, htotal, -⟩ :=
    checkPaths_of_checkFile rfl hfile hreport
  have hone : report.violations = [noText "A.java"] := by
    rw [← (checkFile_eq_ok_iff.mp hreport).2, hrules]
    simp [Rule.found, check_maxLines_latinDisk, Violation.sort]
  exact ⟨hfile, report, run, hreport, hrun, hviolations.trans hone, hone,
    htotal.mpr ⟨_, ofPath?_java⟩⟩

/-- Notes are counted by a run over them, but not if they are checked on their own. -/
theorem checkPaths_notes :
    (latinAnalyzer none).options.maxFiles = none ∧ latinDisk.isFile "notes.md" = true ∧
      ∃ report run, (latinAnalyzer none).checkFile latinDisk "notes.md" = .ok report ∧
        (latinAnalyzer none).checkPaths latinDisk ["notes.md"] = .ok run ∧
        report.summary.totalFiles = 0 ∧ run.summary.totalFiles = 1 := by
  have hfile : latinDisk.isFile "notes.md" = true := isFile_latinDisk (by decide)
  have hfails : (latinAnalyzer none).fails latinDisk "notes.md" = false :=
    fails_latinAnalyzer none (by decide)
  have hfiles : (latinAnalyzer none).filesFor latinDisk ["notes.md"] = ["notes.md"] :=
    filesFor_singleton_of_isFile rfl hfile
  refine ⟨rfl, hfile, _, _, checkFile_eq_ok_iff.mpr ⟨hfails, rfl⟩,
    checkPaths_of_fails_eq_false ?_, ?_, ?_⟩
  · simpa [hfiles] using hfails
  · rw [reportOn_totalFiles, ofPath?_latinDisk.2.2.2]
    rfl
  · rw [reportOn_totalFiles, hfiles]
    rfl

end Latin

theorem findings_eq_ok_iff {f : Findings} :
    a.findings disk paths = .ok f ↔
      (∀ path ∈ paths, ∀ e, a.firstFailure? disk path = some e → ¬ a.IsFatal e) ∧
      (⟨paths.flatMap fun path => (a.rulesFor path).flatMap (·.found disk path),
        paths.filter (a.fails disk)⟩ : Findings) = f := by
  constructor
  · intro h
    have hnone : ∀ path ∈ paths, ∀ e, a.firstFailure? disk path = some e → ¬ a.IsFatal e := by
      intro path hpath e he hfatal
      obtain ⟨e', he'⟩ := exists_findings_eq_error_iff.mpr ⟨path, hpath, e, he, hfatal⟩
      rw [h] at he'
      contradiction
    exact ⟨hnone, Except.ok.inj ((findings_eq_ok_of_not_isFatal hnone).symm.trans h)⟩
  · rintro ⟨hnone, rfl⟩
    exact findings_eq_ok_of_not_isFatal hnone

/-- A failure that ends a run over some files also ends one over these and others behind them. -/
theorem findings_append_of_eq_error {first rest : List String} {e : CheckError}
    (h : a.findings disk first = .error e) : a.findings disk (first ++ rest) = .error e := by
  rw [findings_eq_error_iff] at h ⊢
  rw [List.findSome?_append, h, Option.some_or]

/-- A run that goes on to its end would also have done so over the first of its files. -/
theorem exists_findings_of_append_eq_ok {first rest : List String} {f : Findings}
    (h : a.findings disk (first ++ rest) = .ok f) :
    ∃ g, a.findings disk first = .ok g ∧ g.violations ++ (rest.flatMap fun path =>
      (a.rulesFor path).flatMap (·.found disk path)) = f.violations := by
  obtain ⟨hnone, rfl⟩ := findings_eq_ok_iff.mp h
  have hfirst : ∀ path ∈ first, ∀ e, a.firstFailure? disk path = some e → ¬ a.IsFatal e :=
    fun path hpath => hnone path (List.mem_append_left _ hpath)
  exact ⟨_, findings_eq_ok_of_not_isFatal hfirst, List.flatMap_append.symm⟩

/-- The files to check for a path, up to as many as the options allow. -/
theorem filesFor_singleton : a.filesFor disk [root] =
    (disk.filesUnder a.filter root).take
      (a.options.maxFiles.getD (disk.filesUnder a.filter root).length) := by
  unfold filesFor
  cases a.options.maxFiles <;> simp

theorem filesFor_singleton_eq_iff : a.filesFor disk [root] = disk.filesUnder a.filter root ↔
    ∀ n, a.options.maxFiles = some n → (disk.filesUnder a.filter root).length ≤ n := by
  unfold filesFor
  cases a.options.maxFiles <;> simp

/-- The files to check for a path come first among those at or below it. -/
theorem filesFor_singleton_append_drop : a.filesFor disk [root] ++
    (disk.filesUnder a.filter root).drop (a.filesFor disk [root]).length =
      disk.filesUnder a.filter root := by
  have hfirst : a.filesFor disk [root] <+: disk.filesUnder a.filter root := by
    rw [filesFor_singleton]
    exact List.take_prefix _ _
  exact List.prefix_iff_eq_append.mp hfirst

/-- A folder is analyzed in all its files, whatever the options allow, but reported on only in as
many as they allow, the first ones. Where these are all files, the report holds what the analysis
finds, and the two fail together and with the same error. Otherwise a report lacks what is found in
the other files, and it may succeed where the analysis fails. -/
theorem analyze_and_checkFolder (a : Analyzer) (disk : Disk) (root : String) :
    let files := disk.filesUnder a.filter root
    let first := a.filesFor disk [root]
    first <+: files ∧
    (first = files ↔ ∀ n, a.options.maxFiles = some n → files.length ≤ n) ∧
    (first = files → ∀ e, a.analyze disk root = .error e ↔ a.checkFolder disk root = .error e) ∧
    (∀ e, a.checkFolder disk root = .error e → a.analyze disk root = .error e) ∧
    ∀ vs, a.analyze disk root = .ok vs → ∃ report, a.checkFolder disk root = .ok report ∧
      report.violations.Pairwise (fun v w => v.le w = true) ∧
      report.summary.totalFiles = first.length ∧
      (first = files → report.violations.Perm vs) ∧
      (report.violations ++ (files.drop first.length).flatMap fun path =>
        (a.rulesFor path).flatMap (·.found disk path)).Perm vs := by
  intro files first
  have hfiles : first ++ files.drop first.length = files := filesFor_singleton_append_drop
  have hanalyze : ∀ e, a.analyze disk root = .error e ↔ a.findings disk files = .error e :=
    fun e => Except.map_eq_error_iff
  have hfolder : ∀ e, a.checkFolder disk root = .error e ↔ a.findings disk first = .error e :=
    fun e => Except.map_eq_error_iff
  refine ⟨List.prefix_iff_eq_append.mpr hfiles, filesFor_singleton_eq_iff, fun hall e => ?_,
    fun e he => ?_, fun vs hvs => ?_⟩
  · rw [hanalyze, hfolder, hall]
  · rw [hanalyze, ← hfiles]
    exact findings_append_of_eq_error ((hfolder e).mp he)
  · obtain ⟨f, hf, rfl⟩ := Except.map_eq_ok_iff.mp hvs
    have happend : a.findings disk (first ++ files.drop first.length) = .ok f :=
      (congrArg (a.findings disk) hfiles).trans hf
    obtain ⟨g, hg, hviolations⟩ := exists_findings_of_append_eq_ok happend
    have hperm : (a.reportOn g first.length).violations.Perm g.violations :=
      Violation.sort_perm g.violations
    refine ⟨a.reportOn g first.length, Except.map_eq_ok_iff.mpr ⟨g, hg, rfl⟩,
      Violation.pairwise_sort _, rfl, fun hall => ?_, ?_⟩
    · -- Both runs are over the same files and so have the same findings.
      obtain rfl : g = f := Except.ok.inj (hg.symm.trans (hall ▸ hf))
      exact hperm
    · rw [← hviolations]
      exact hperm.append_right _

section LatinFolder

theorem pathOf_here (name : String) : Disk.pathOf "." [name] = "." ++ "/" ++ name := by
  have hend : ".".endsWith "/" = false := by
    rw [String.endsWith_eq_endsWith_toSlice, String.Slice.endsWith_string_eq_false_iff]
    decide +kernel
  simp [Disk.pathOf, Path.join, hend]

theorem isWanted_here (name : String) : Disk.isWanted { } "." [name] =
    (Language.ofPath? ("." ++ "/" ++ name)).isSome := by
  simp [Disk.isWanted, pathOf_here, PathFilter.selects]

theorem find_here (lastLink : Bool) :
    latinDisk.find lastLink "." = .ok (.folder "" latinDisk.entries) := by
  have hsteps : Disk.steps "." = ["."] := by decide
  have hlong : Disk.isTooLong "." = false := by decide
  simp [Disk.find, Disk.route, hsteps, hlong, Disk.follow, Entry.below?, Entry.isFolder]

theorem filesUnder_latinDisk : latinDisk.filesUnder { } "." = ["./A.java", "./B.java"] := by
  obtain ⟨hA, hB, hnotes, -⟩ := ofPath?_latinDisk
  have hfiles : Entry.regularFiles "." (.folder "" latinDisk.entries) =
      [["A.java"], ["B.java"], ["notes.md"]] := by decide +kernel
  simp [Disk.filesUnder, Disk.isFile, Disk.discover, Disk.startEntry?, find_here,
    Entry.isFile, hfiles, isWanted_here, pathOf_here, hA, hB, hnotes]

theorem rulesFor_latinAnalyzer (maxFiles : Option Nat) {path : String}
    (h : path ∈ ["./A.java", "./B.java"]) :
    (latinAnalyzer maxFiles).rulesFor path = [maxLines] := by
  obtain ⟨hA, hB, -⟩ := ofPath?_latinDisk
  simp only [List.mem_cons, List.not_mem_nil, or_false] at h
  obtain rfl | rfl := h
  · rw [rulesFor, hA]
    rfl
  · rw [rulesFor, hB]
    rfl

theorem analyze_latinAnalyzer (maxFiles : Option Nat) :
    (latinAnalyzer maxFiles).analyze latinDisk "." =
      .ok [noText "./A.java", noText "./B.java"] := by
  have hfiles : latinDisk.filesUnder (latinAnalyzer maxFiles).filter "." =
      ["./A.java", "./B.java"] := filesUnder_latinDisk
  have hnone : ∀ path ∈ ["./A.java", "./B.java"],
      (latinAnalyzer maxFiles).fails latinDisk path = false := by simp [fails_latinAnalyzer]
  rw [analyze, hfiles, findings_eq_ok_of_fails_eq_false hnone, Except.map_ok]
  simp [rulesFor_latinAnalyzer, Rule.found, check_maxLines_latinDisk]

/-- A report on both files holds what an analysis finds. -/
theorem checkFolder_latinAnalyzer_two :
    (latinAnalyzer (some 2)).filesFor latinDisk ["."] = latinDisk.filesUnder { } "." ∧
      (latinAnalyzer (some 2)).analyze latinDisk "." =
        .ok [noText "./A.java", noText "./B.java"] ∧
      ∃ report, (latinAnalyzer (some 2)).checkFolder latinDisk "." = .ok report ∧
        report.violations.Perm [noText "./A.java", noText "./B.java"] ∧
        report.summary.totalFiles = 2 := by
  obtain ⟨-, hall, -, -, hreport⟩ :=
    analyze_and_checkFolder (latinAnalyzer (some 2)) latinDisk "."
  have hfiles : (latinAnalyzer (some 2)).filesFor latinDisk ["."] =
      latinDisk.filesUnder (latinAnalyzer (some 2)).filter "." := by
    refine hall.mpr fun n hn => ?_
    obtain rfl : 2 = n := Option.some.inj hn
    exact Nat.le_of_eq (congrArg List.length filesUnder_latinDisk)
  obtain ⟨report, hok, -, htotal, hperm, -⟩ := hreport _ (analyze_latinAnalyzer (some 2))
  refine ⟨hfiles, analyze_latinAnalyzer (some 2), report, hok, hperm hfiles, ?_⟩
  rw [htotal, hfiles]
  exact congrArg List.length filesUnder_latinDisk

/-- If the options allow one file, an analysis looks at both all the same, a report only at the
first. -/
theorem checkFolder_latinAnalyzer_one :
    (latinAnalyzer (some 1)).analyze latinDisk "." =
        .ok [noText "./A.java", noText "./B.java"] ∧
      ∃ report, (latinAnalyzer (some 1)).checkFolder latinDisk "." = .ok report ∧
        report.violations = [noText "./A.java"] ∧ report.summary.totalFiles = 1 := by
  have hfiles : (latinAnalyzer (some 1)).filesFor latinDisk ["."] = ["./A.java"] := by
    rw [filesFor_singleton]
    exact congrArg (List.take 1) filesUnder_latinDisk
  have hnone : ∀ path ∈ (latinAnalyzer (some 1)).filesFor latinDisk ["."],
      (latinAnalyzer (some 1)).fails latinDisk path = false := by
    simp [hfiles, fails_latinAnalyzer]
  refine ⟨analyze_latinAnalyzer (some 1), _, checkPaths_of_fails_eq_false hnone, ?_, ?_⟩
  · simp [hfiles, rulesFor_latinAnalyzer, Rule.found, check_maxLines_latinDisk, Violation.sort]
  · rw [reportOn_totalFiles, hfiles]
    rfl

end LatinFolder

end Analyzer

end CodeStyle

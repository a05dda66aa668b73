import CodeStyle.Proofs.Analysis.Analyzer
import CodeStyle.Proofs.Violation

/-!
# Reports on files that cannot be read

A rule that cannot read a file costs a report nothing but its own violations in that file: the other
rules and the other files keep theirs, and the file is listed once for every time it was to be
checked. A run that ends at the first failure ends with that of the first rule on the first file.
-/
namespace CodeStyle

namespace Rule

/-- The violations that a rule finds in a file, none if it fails. -/
def found (r : Rule) (disk : Disk) (path : String) : List Violation :=
  match r.check disk path with
  | .ok vs => vs
  | .error _ => []

end Rule

namespace FileOutcome

variable {disk : Disk} {path : String}

theorem violations_add (o : FileOutcome) (r : Rule) :
    (o.add (r.check disk path)).violations = o.violations ++ r.found disk path := by
  unfold Rule.found
  cases r.check disk path with
  | ok vs => rfl
  | error e => simp [add]

theorem violations_foldl_add (rules : List Rule) (o : FileOutcome) :
    (rules.foldl (fun o r => o.add (r.check disk path)) o).violations =
      o.violations ++ rules.flatMap (·.found disk path) := by
  induction rules generalizing o with
  | nil => simp
  | cons r rules ih =>
    rw [List.foldl_cons, ih, violations_add, List.append_assoc, List.flatMap_cons]

/-- A rule that fails takes no violations from the others. -/
theorem violations_ofRules (rules : List Rule) :
    (ofRules rules disk path).violations = rules.flatMap (·.found disk path) := by
  rw [ofRules, violations_foldl_add, List.nil_append]

end FileOutcome

namespace Findings

variable {failFast : Bool} {path : String}

theorem absorb_of_ending?_eq_none {f : Findings} {o : FileOutcome}
    (h : o.ending? failFast = none) :
    f.absorb failFast path o = .ok ⟨f.violations ++ o.violations,
      f.skipped ++ if o.failure.isSome then [path] else []⟩ := by
  unfold FileOutcome.ending? at h
  unfold absorb
  cases hfailure : o.failure with
  | none => simp
  | some e =>
    have hskip : (failFast || !e.isUnreadableFile) = false := by
      simpa [hfailure, Option.filter] using h
    simp [hskip]

/-- A run without a failure that ends it keeps all violations and lists the files with a
failure. -/
theorem absorbAll_of_ending?_eq_none {f : Findings} {outcomes : List (String × FileOutcome)}
    (h : ∀ outcome ∈ outcomes, outcome.2.ending? failFast = none) :
    f.absorbAll failFast outcomes = .ok ⟨f.violations ++ outcomes.flatMap (·.2.violations),
      f.skipped ++ (outcomes.filter (·.2.failure.isSome)).map (·.1)⟩ := by
  induction outcomes generalizing f with
  | nil => simp [absorbAll]
  | cons outcome outcomes ih =>
    obtain ⟨path, o⟩ := outcome
    rw [List.forall_mem_cons] at h
    rw [absorbAll, absorb_of_ending?_eq_none h.1]
    simp only [ih h.2, List.flatMap_cons, List.append_assoc, List.filter_cons]
    cases o.failure <;> rfl

end Findings

namespace Analyzer

variable {a : Analyzer} {disk : Disk} {path : String} {paths : List String}

/-- Whether some rule fails on a file. -/
def fails (a : Analyzer) (disk : Disk) (path : String) : Bool :=
  (a.rulesFor path).any fun r => (r.failure? disk path).isSome

theorem fails_eq_true_iff :
    a.fails disk path = true ↔ ∃ r ∈ a.rulesFor path, ∃ e, r.check disk path = .error e := by
  simp only [fails, List.any_eq_true, Option.isSome_iff_exists, Rule.failure?_eq_some_iff]

theorem fails_eq_false_iff :
    a.fails disk path = false ↔ ∀ r ∈ a.rulesFor path, ∃ vs, r.check disk path = .ok vs := by
  simp only [fails, List.any_eq_false, Bool.not_eq_true, Option.isSome_eq_false_iff,
    Option.isNone_iff_eq_none, Rule.failure?_eq_none_iff]

theorem isSome_firstFailure? : (a.firstFailure? disk path).isSome = a.fails disk path := by
  rw [firstFailure?, fails, List.isSome_findSome?]

theorem firstFailure?_eq_none_iff :
    a.firstFailure? disk path = none ↔ a.fails disk path = false := by
  rw [← isSome_firstFailure?, Option.isSome_eq_false_iff, Option.isNone_iff_eq_none]

theorem violations_outcome (path : String) :
    (a.outcome disk path).violations = (a.rulesFor path).flatMap (·.found disk path) := by
  unfold outcome rulesFor
  cases Language.ofPath? path with
  | some language => exact FileOutcome.violations_ofRules _
  | none => rfl

/-- Whether the rules fail on some files only because they cannot read them. -/
def OnlyUnreadable (a : Analyzer) (disk : Disk) (paths : List String) : Prop :=
  ∀ path ∈ paths, ∀ r ∈ a.rulesFor path, ∀ e,
    r.check disk path = .error e → e.isUnreadableFile = true

theorem OnlyUnreadable.isUnreadableFile_of_firstFailure? (h : a.OnlyUnreadable disk paths)
    (hpath : path ∈ paths) {e : CheckError} (he : a.firstFailure? disk path = some e) :
    e.isUnreadableFile = true := by
  obtain ⟨before, r, after, hrules, hr, -⟩ := firstFailure?_eq_some_iff.mp he
  exact h path hpath r (by simp [hrules]) e hr

/-- A run without a failure that ends it holds what the rules found that did not fail. -/
theorem findings_eq_ok_of_not_isFatal
    (h : ∀ path ∈ paths, ∀ e, a.firstFailure? disk path = some e → ¬ a.IsFatal e) :
    a.findings disk paths = .ok
      ⟨paths.flatMap fun path => (a.rulesFor path).flatMap (·.found disk path),
        paths.filter (a.fails disk)⟩ := by
  have hnone : ∀ outcome ∈ paths.map fun path => (path, a.outcome disk path),
      outcome.2.ending? a.options.failFast = none := by
    intro outcome houtcome
    obtain ⟨path, hpath, rfl⟩ := List.mem_map.mp houtcome
    exact ending?_outcome_eq_none_iff.mpr (h path hpath)
  rw [findings_eq_absorbAll, Findings.absorbAll_of_ending?_eq_none hnone]
  simp only [List.flatMap_map, List.filter_map, List.map_map, List.nil_append, Function.comp_def,
    violations_outcome, failure_outcome, isSome_firstFailure?, List.map_id']

/-- Files that cannot be read do not end a run if it is to go on after failures. -/
theorem findings_eq_ok_of_onlyUnreadable (hgoOn : a.options.failFast = false)
    (h : a.OnlyUnreadable disk paths) :
    a.findings disk paths = .ok
      ⟨paths.flatMap fun path => (a.rulesFor path).flatMap (·.found disk path),
        paths.filter (a.fails disk)⟩ := by
  refine findings_eq_ok_of_not_isFatal fun path hpath e hfirst hfatal => ?_
  have hunreadable := h.isUnreadableFile_of_firstFailure? hpath hfirst
  simp [IsFatal, hgoOn, hunreadable] at hfatal

/-- A run on which no rule fails holds what all rules found. -/
theorem findings_eq_ok_of_fails_eq_false (h : ∀ path ∈ paths, a.fails disk path = false) :
    a.findings disk paths = .ok
      ⟨paths.flatMap fun path => (a.rulesFor path).flatMap (·.found disk path), []⟩ := by
  have hnone : ∀ path ∈ paths, ∀ e, a.firstFailure? disk path = some e → ¬ a.IsFatal e := by
    intro path hpath e hfirst
    rw [firstFailure?_eq_none_iff.mpr (h path hpath)] at hfirst
    contradiction
  rw [findings_eq_ok_of_not_isFatal hnone, List.filter_eq_nil_iff.mpr]
  exact fun path hpath => Bool.not_eq_true _ ▸ h path hpath

/-- A run that ends at the first failure does so on the first file with one. -/
theorem findings_eq_error_iff_of_failFast (hstop : a.options.failFast = true) {e : CheckError} :
    a.findings disk paths = .error e ↔ ∃ before path after, paths = before ++ path :: after ∧
      a.firstFailure? disk path = some e ∧ ∀ earlier ∈ before, a.fails disk earlier = false := by
  have hfatal : ∀ e', a.IsFatal e' := fun e' => .inl hstop
  have hnone : ∀ path, (∀ e', a.firstFailure? disk path = some e' → ¬ a.IsFatal e') ↔
      a.fails disk path = false := by
    intro path
    rw [← firstFailure?_eq_none_iff, Option.eq_none_iff_forall_ne_some]
    simp only [hfatal, not_true, imp_false, ne_eq]
  simp only [findings_eq_error_iff_exists_first, hnone]
  simp only [hfatal, true_and]

section ReportOn

variable (f : Findings) (files : Nat)

@[simp] theorem reportOn_violations :
    (a.reportOn f files).violations = Violation.sort f.violations := rfl

@[simp] theorem reportOn_skipped : (a.reportOn f files).skipped = f.skipped := rfl

@[simp] theorem reportOn_totalFiles : (a.reportOn f files).summary.totalFiles = files := rfl

@[simp] theorem reportOn_activeRules :
    (a.reportOn f files).summary.activeRules = a.rules.size := rfl

@[simp] theorem reportOn_filesWithViolations :
    (a.reportOn f files).summary.filesWithViolations =
      Report.countFiles (Violation.sort f.violations) := rfl

end ReportOn

theorem checkPaths_of_maxFiles_eq_none (hall : a.options.maxFiles = none) :
    a.checkPaths disk paths = (a.findings disk (paths.flatMap (disk.filesUnder a.filter))).map
      fun f => a.reportOn f (paths.flatMap (disk.filesUnder a.filter)).length := by
  rw [checkPaths, filesFor, hall]

/-- A report on files in which no rule fails holds what all rules found. -/
theorem checkPaths_of_fails_eq_false
    (h : ∀ path ∈ a.filesFor disk paths, a.fails disk path = false) :
    let files := a.filesFor disk paths
    a.checkPaths disk paths = .ok (a.reportOn
      ⟨files.flatMap fun path => (a.rulesFor path).flatMap (·.found disk path), []⟩
      files.length) := by
  intro files
  rw [checkPaths, findings_eq_ok_of_fails_eq_false h, Except.map_ok]

/-- If rules fail only because they cannot read files, a report holds what all other rules found, in
order, and lists the files with a failure as often as they were to be checked. A run that ends at
the first failure ends with that of the first failing rule on the first file that has one. -/
theorem checkPaths_of_onlyUnreadable (a : Analyzer) (disk : Disk) (paths : List String)
    (hall : a.options.maxFiles = none)
    (h : a.OnlyUnreadable disk (paths.flatMap (disk.filesUnder a.filter))) :
    let files := paths.flatMap (disk.filesUnder a.filter)
    (a.options.failFast = false → ∃ report, a.checkPaths disk paths = .ok report ∧
      report.violations.Pairwise (fun v w => v.le w = true) ∧
      report.violations.Perm
        (files.flatMap fun path => (a.rulesFor path).flatMap (·.found disk path)) ∧
      report.skipped = files.filter (a.fails disk) ∧
      report.summary.totalFiles = files.length) ∧
    (a.options.failFast = true →
      ((∃ e, a.checkPaths disk paths = .error e) ↔
        ∃ path ∈ files, ∃ r ∈ a.rulesFor path, ∃ e, r.check disk path = .error e) ∧
      ∀ e, a.checkPaths disk paths = .error e ↔ ∃ before path after earlier r later,
        files = before ++ path :: after ∧ (∀ x ∈ before, a.fails disk x = false) ∧
        a.rulesFor path = earlier ++ r :: later ∧ r.check disk path = .error e ∧
        ∀ x ∈ earlier, ∃ vs, x.check disk path = .ok vs) := by
  intro files
  refine ⟨fun hgoOn => ?_, fun hstop => ⟨?_, fun e => ?_⟩⟩
  · rw [checkPaths_of_maxFiles_eq_none hall, findings_eq_ok_of_onlyUnreadable hgoOn h]
    exact ⟨_, rfl, Violation.pairwise_sort _, Violation.sort_perm _, rfl, rfl⟩
  · have hfatal : ∀ path, (∃ e, a.firstFailure? disk path = some e ∧ a.IsFatal e) ↔
        a.fails disk path = true := by
      intro path
      simp only [← isSome_firstFailure?, Option.isSome_iff_exists, IsFatal, hstop, true_or,
        and_true]
    simp only [checkPaths_of_maxFiles_eq_none hall, Except.map_eq_error_iff,
      exists_findings_eq_error_iff, hfatal, fails_eq_true_iff, files]
  · rw [checkPaths_of_maxFiles_eq_none hall, Except.map_eq_error_iff,
      findings_eq_error_iff_of_failFast hstop]
    constructor
    · rintro ⟨before, path, after, hfiles, hfirst, hbefore⟩
      obtain ⟨earlier, r, later, hrules, hr, hearlier⟩ := firstFailure?_eq_some_iff.mp hfirst
      exact ⟨before, path, after, earlier, r, later, hfiles, hbefore, hrules, hr, hearlier⟩
    · rintro ⟨before, path, after, earlier, r, later, hfiles, hbefore, hrules, hr, hearlier⟩
      have hfirst := firstFailure?_eq_some_iff.mpr ⟨earlier, r, later, hrules, hr, hearlier⟩
      exact ⟨before, path, after, hfiles, hfirst, hbefore⟩

section Unread

/-- A rule that notes every file without reading it. -/
def noting : Rule := ⟨"NotingJavaRule", .java, true, fun _ path => .ok [.ofFile path "noted"]⟩

/-- An analyzer with a rule that has to read the files and one that does not. -/
def readingAndNoting : Analyzer := brokenAnalyzer [maxLines, noting]

theorem rulesFor_readingAndNoting : readingAndNoting.rulesFor "A.java" = [maxLines, noting] := by
  rw [rulesFor, ofPath?_java]
  rfl

theorem onlyUnreadable_readingAndNoting :
    readingAndNoting.OnlyUnreadable brokenDisk ["A.java", "A.java"] := by
  intro path hpath r hr e he
  obtain rfl : path = "A.java" := by simpa using hpath
  rw [rulesFor_readingAndNoting] at hr
  obtain rfl | rfl : r = maxLines ∨ r = noting := by simpa using hr
  · rw [check_maxLines_brokenDisk] at he
    cases he
    rfl
  · cases he

/-- A file that is given twice and cannot be read counts twice, and is noted twice all the same. -/
theorem checkPaths_readingAndNoting :
    readingAndNoting.options.maxFiles = none ∧
      readingAndNoting.OnlyUnreadable brokenDisk ["A.java", "A.java"] ∧
      ∃ report, readingAndNoting.checkPaths brokenDisk ["A.java", "A.java"] = .ok report ∧
        report.violations = [.ofFile "A.java" "noted", .ofFile "A.java" "noted"] ∧
        report.skipped = ["A.java", "A.java"] ∧ report.summary.totalFiles = 2 := by
  have hfiles : ["A.java", "A.java"].flatMap (brokenDisk.filesUnder readingAndNoting.filter) =
      ["A.java", "A.java"] := by
    simp only [List.flatMap_cons, List.flatMap_nil, filesUnder_brokenDisk, List.singleton_append]
  have hreport := checkPaths_of_onlyUnreadable readingAndNoting brokenDisk ["A.java", "A.java"] rfl
    (by rw [hfiles]; exact onlyUnreadable_readingAndNoting)
  obtain ⟨report, hok, -, hperm, hskipped, htotal⟩ := hreport.1 rfl
  rw [hfiles] at hperm hskipped htotal
  have hfound : (readingAndNoting.rulesFor "A.java").flatMap (·.found brokenDisk "A.java") =
      [.ofFile "A.java" "noted"] := by
    rw [rulesFor_readingAndNoting]
    simp [Rule.found, check_maxLines_brokenDisk, noting]
  have hfails : readingAndNoting.fails brokenDisk "A.java" = true :=
    fails_eq_true_iff.mpr
      ⟨maxLines, by simp [rulesFor_readingAndNoting], _, check_maxLines_brokenDisk⟩
  refine ⟨rfl, onlyUnreadable_readingAndNoting, report, hok, ?_, ?_, htotal⟩
  · simp only [List.flatMap_cons, List.flatMap_nil, hfound] at hperm
    have htwo : report.violations.Perm (List.replicate 2 (.ofFile "A.java" "noted")) := hperm
    exact List.perm_replicate.mp htwo
  · simpa [hfails] using hskipped

end Unread

end Analyzer

end CodeStyle

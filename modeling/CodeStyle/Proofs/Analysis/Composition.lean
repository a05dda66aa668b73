import CodeStyle.Proofs.Analysis.EntryPoints
import CodeStyle.Proofs.Report.Groups

/-!
# Runs over several paths

Files are analyzed independently of each other. A run over two lists of paths therefore reports what
runs over both of them report, and the order of the paths makes no difference but for the files that
cannot be read, which are listed in the order in which they come up, and for violations in a file
that is given under different paths.
-/
namespace CodeStyle

open List (Forall₂ Perm)

namespace Analyzer

variable {a : Analyzer} {disk : Disk}

/-- The findings in files on which no failure ends a run. -/
def findingsIn (a : Analyzer) (disk : Disk) (files : List String) : Findings :=
  ⟨files.flatMap fun path => (a.rulesFor path).flatMap (·.found disk path),
    files.filter (a.fails disk)⟩

/-- A run that may look at all files goes on to its end if no failure ends it. -/
theorem checkPaths_eq_ok_iff {paths : List String} {report : Report}
    (hall : a.options.maxFiles = none) :
    let files := paths.flatMap (disk.filesUnder a.filter)
    a.checkPaths disk paths = .ok report ↔
      (∀ file ∈ files, ∀ e, a.firstFailure? disk file = some e → ¬ a.IsFatal e) ∧
        a.reportOn (a.findingsIn disk files) files.length = report := by
  intro files
  rw [checkPaths_of_maxFiles_eq_none hall, Except.map_eq_ok_iff]
  simp only [findings_eq_ok_iff, and_assoc, exists_and_left, exists_eq_left']
  rfl

/-- The findings in files in another order. -/
theorem findingsIn_perm (a : Analyzer) (disk : Disk) {files others : List String}
    (h : files.Perm others) :
    (a.findingsIn disk files).violations.Perm (a.findingsIn disk others).violations ∧
      (a.findingsIn disk files).skipped.Perm (a.findingsIn disk others).skipped :=
  ⟨h.flatMap_right _, h.filter _⟩

/-- Runs over two lists of paths that both go on to their end make up a run over all the paths. The
paths of a run may be given in any order. -/
theorem checkPaths_append_and_perm {ps qs : List String} {first rest : Report}
    (hall : a.options.maxFiles = none) (hfirst : a.checkPaths disk ps = .ok first)
    (hrest : a.checkPaths disk qs = .ok rest) :
    (∃ both, a.checkPaths disk (ps ++ qs) = .ok both ∧
      both.violations = first.violations.merge rest.violations Violation.le ∧
      both.violations.Pairwise (fun v w => v.le w = true) ∧
      both.skipped = first.skipped ++ rest.skipped ∧
      both.summary.totalFiles = first.summary.totalFiles + rest.summary.totalFiles) ∧
    ∀ others : List String, others.Perm ps → ∃ report, a.checkPaths disk others = .ok report ∧
      Forall₂ (fun v w => v.same w = true) report.violations first.violations ∧
      report.skipped.Perm first.skipped ∧ report.summary = first.summary := by
  obtain ⟨hps, rfl⟩ := (checkPaths_eq_ok_iff hall).mp hfirst
  obtain ⟨hqs, rfl⟩ := (checkPaths_eq_ok_iff hall).mp hrest
  constructor
  · have hfiles : (ps ++ qs).flatMap (disk.filesUnder a.filter) =
        ps.flatMap (disk.filesUnder a.filter) ++ qs.flatMap (disk.filesUnder a.filter) :=
      List.flatMap_append
    have hboth := List.forall_mem_append.mpr ⟨hps, hqs⟩
    rw [← hfiles] at hboth
    refine ⟨_, (checkPaths_eq_ok_iff hall).mpr ⟨hboth, rfl⟩, ?_, Violation.pairwise_sort _, ?_, ?_⟩
    · simp only [reportOn_violations, findingsIn, hfiles, List.flatMap_append,
        Violation.sort_append]
    · simp only [reportOn_skipped, findingsIn, hfiles, List.filter_append]
    · simp only [reportOn_totalFiles, hfiles, List.length_append]
  · intro others hothers
    have hfiles : (others.flatMap (disk.filesUnder a.filter)).Perm
        (ps.flatMap (disk.filesUnder a.filter)) := hothers.flatMap_right _
    obtain ⟨hviolations, hskipped⟩ := a.findingsIn_perm disk hfiles
    have hsame := Violation.forall₂_same_sort_of_perm hviolations
    have hnone := fun file hfile => hps file (hfiles.mem_iff.mp hfile)
    refine ⟨_, (checkPaths_eq_ok_iff hall).mpr ⟨hnone, rfl⟩, hsame, hskipped, ?_⟩
    simp only [reportOn, Report.sort, hfiles.length_eq, Report.countFiles_eq_of_forall₂_same hsame]

section Latin

theorem filesFor_latinAnalyzer {paths : List String} (h : ∀ path ∈ paths, path ∈ latinPaths) :
    (latinAnalyzer none).filesFor latinDisk paths = paths := by
  have hunder : ∀ path ∈ paths, latinDisk.filesUnder (latinAnalyzer none).filter path = [path] := by
    intro path hpath
    rw [Disk.filesUnder, if_pos (isFile_latinDisk (h path hpath))]
  calc (latinAnalyzer none).filesFor latinDisk paths
      = paths.flatMap (latinDisk.filesUnder (latinAnalyzer none).filter) := rfl
    _ = paths.flatMap fun path => [path] := List.flatMap_congr hunder
    _ = paths := by rw [← List.map_eq_flatMap, List.map_id']

theorem checkPaths_latinAnalyzer {paths : List String} (h : ∀ path ∈ paths, path ∈ latinPaths) :
    (latinAnalyzer none).checkPaths latinDisk paths = .ok ((latinAnalyzer none).reportOn
      ⟨paths.flatMap fun path =>
        ((latinAnalyzer none).rulesFor path).flatMap (·.found latinDisk path), []⟩
      paths.length) := by
  have hfiles := filesFor_latinAnalyzer h
  have hfails : ∀ path ∈ (latinAnalyzer none).filesFor latinDisk paths,
      (latinAnalyzer none).fails latinDisk path = false := by
    rw [hfiles]
    exact fun path hpath => fails_latinAnalyzer none (h path hpath)
  rw [checkPaths_of_fails_eq_false hfails, hfiles]

/-- Runs over two files and over one of them again, given in another way. -/
theorem checkPaths_append_latinDisk :
    ∃ first rest both other,
      (latinAnalyzer none).checkPaths latinDisk ["A.java", "./B.java"] = .ok first ∧
      (latinAnalyzer none).checkPaths latinDisk ["./A.java"] = .ok rest ∧
      (latinAnalyzer none).checkPaths latinDisk ["A.java", "./B.java", "./A.java"] = .ok both ∧
      (latinAnalyzer none).checkPaths latinDisk ["./B.java", "A.java"] = .ok other ∧
      rest.violations = [noText "./A.java"] ∧
      both.violations = first.violations.merge rest.violations Violation.le ∧
      both.summary.totalFiles = 3 ∧ other.summary = first.summary := by
  have hfirst : ∀ path ∈ ["A.java", "./B.java"], path ∈ latinPaths := by decide
  have hrest : ∀ path ∈ ["./A.java"], path ∈ latinPaths := by decide
  have hfirst := checkPaths_latinAnalyzer hfirst
  have hrest := checkPaths_latinAnalyzer hrest
  obtain ⟨⟨both, hboth, hviolations, -, -, htotal⟩, hperm⟩ :=
    checkPaths_append_and_perm rfl hfirst hrest
  obtain ⟨other, hother, -, -, hsummary⟩ := hperm ["./B.java", "A.java"] (.swap _ _ _)
  refine ⟨_, _, both, other, hfirst, hrest, hboth, hother, ?_, hviolations, htotal, hsummary⟩
  have hrules : (latinAnalyzer none).rulesFor "./A.java" = [maxLines] :=
    rulesFor_latinAnalyzer none (by decide)
  have hcheck : maxLines.check latinDisk "./A.java" = .ok [noText "./A.java"] :=
    check_maxLines_latinDisk (by decide)
  simp [hrules, Rule.found, hcheck, Violation.sort]

end Latin

end Analyzer

end CodeStyle

import CodeStyle.Proofs.Analysis.Report
import CodeStyle.Proofs.Config.Switch
import CodeStyle.Proofs.SyntaxTree.Fit
import Mathlib.Data.List.Perm.Basic

/-!
# Independence of rules

What a rule finds in a file does not depend on the other rules. A rule that is switched off takes
its own violations from a report and no others, as long as no rule fails.
-/
namespace CodeStyle.Analyzer

variable {a : Analyzer} {disk : Disk} {path : String} {paths : List String}

/-- An analyzer without the rules that have a key. -/
def without (a : Analyzer) (key : String) : Analyzer := { a with rules := a.rules.without key }

theorem rulesFor_without (key : String) :
    (a.without key).rulesFor path = (a.rulesFor path).filter (·.key != key) := by
  unfold rulesFor
  cases Language.ofPath? path with
  | some language => exact Config.RuleSet.forLanguage_without language
  | none => rfl

theorem fails_without_eq_false (key : String) (h : a.fails disk path = false) :
    (a.without key).fails disk path = false := by
  rw [fails_eq_false_iff] at h ⊢
  intro r hr
  rw [rulesFor_without] at hr
  exact h r (List.mem_filter.mp hr).1

/-- What all rules find is what those with a key find and what the others find. -/
theorem found_without_append_perm (key : String) (files : List String) :
    ((files.flatMap fun path => ((a.without key).rulesFor path).flatMap (·.found disk path)) ++
      files.flatMap fun path =>
        ((a.rulesFor path).filter (·.key == key)).flatMap (·.found disk path)).Perm
      (files.flatMap fun path => (a.rulesFor path).flatMap (·.found disk path)) := by
  refine (List.flatMap_append_perm files _ _).trans (List.Perm.flatMap_left _ fun path _ => ?_)
  have hsplit : ((a.rulesFor path).filter (·.key != key) ++
      (a.rulesFor path).filter (·.key == key)).Perm (a.rulesFor path) :=
    List.perm_append_comm.trans (List.filter_append_perm (fun r : Rule => r.key == key) _)
  rw [rulesFor_without, ← List.flatMap_append]
  exact hsplit.flatMap_right _

/-- Rules that are left out take what they found from a report and nothing else, if none fails. -/
theorem checkPaths_without (key : String)
    (h : ∀ path ∈ a.filesFor disk paths, ∀ r ∈ a.rulesFor path, ∃ vs, r.check disk path = .ok vs) :
    ∃ before after, a.checkPaths disk paths = .ok before ∧
      (a.without key).checkPaths disk paths = .ok after ∧
      (after.violations ++ (a.filesFor disk paths).flatMap fun path =>
        ((a.rulesFor path).filter (·.key == key)).flatMap (·.found disk path)).Perm
        before.violations ∧
      before.violations.Pairwise (fun v w => v.le w = true) ∧
      after.violations.Pairwise (fun v w => v.le w = true) ∧
      after.summary.totalFiles = before.summary.totalFiles ∧ after.skipped = before.skipped := by
  have hfiles : (a.without key).filesFor disk paths = a.filesFor disk paths := rfl
  have hnone : ∀ path ∈ a.filesFor disk paths, a.fails disk path = false :=
    fun path hpath => fails_eq_false_iff.mpr (h path hpath)
  have hnone' : ∀ path ∈ (a.without key).filesFor disk paths,
      (a.without key).fails disk path = false :=
    fun path hpath => fails_without_eq_false key (hnone path hpath)
  refine ⟨_, _, checkPaths_of_fails_eq_false hnone, checkPaths_of_fails_eq_false hnone', ?_,
    Violation.pairwise_sort _, Violation.pairwise_sort _, rfl, rfl⟩
  rw [reportOn_violations, reportOn_violations, hfiles]
  refine ((Violation.sort_perm _).append_right _).trans ?_
  exact (found_without_append_perm key _).trans (Violation.sort_perm _).symm

/-- A document that is resolved still is with the rules of some key switched off, and then the rules
are the others. Where no rule fails, the new report lacks what the rules with that key found, as
often as they found it, and nothing else; it is about the same files and leaves out none more. -/
theorem checkPaths_switchOff {registry : List RuleEntry} {d : Config.Document}
    {set : Config.RuleSet} (h : Config.resolve registry d = .ok set) (key : String) :
    Config.resolve registry (d.switchOff key) = .ok (set.without key) ∧
      ∀ (filter : PathFilter) (options : AnalysisOptions) (disk : Disk) (paths : List String),
        let a : Analyzer := ⟨set, filter, options⟩
        let off : Analyzer := ⟨set.without key, filter, options⟩
        let files := a.filesFor disk paths
        (∀ path ∈ files, ∀ r ∈ a.rulesFor path, ∃ vs, r.check disk path = .ok vs) →
        ∃ before after, a.checkPaths disk paths = .ok before ∧
          off.checkPaths disk paths = .ok after ∧
          (after.violations ++ files.flatMap fun path =>
            ((a.rulesFor path).filter (·.key == key)).flatMap (·.found disk path)).Perm
            before.violations ∧
          before.violations.Pairwise (fun v w => v.le w = true) ∧
          after.violations.Pairwise (fun v w => v.le w = true) ∧
          after.summary.totalFiles = before.summary.totalFiles ∧ after.skipped = before.skipped :=
  ⟨Config.resolve_switchOff h key, fun _ _ _ _ => checkPaths_without key⟩

section TwoRules

/-- The rule about the length of lines with a small limit. -/
def shortLinesEntry : RuleEntry := .java "MaxLineLength" (.measuring .lineLength "maxLineLength" 3)

open Config (maxLinesEntry)

theorem key_shortLinesEntry_ne : shortLinesEntry.key ≠ maxLinesEntry.key := by
  have hshort : shortLinesEntry.key =
      String.ofList (Unicode.lowerChar 'M' ++ "axLineLength".toList) :=
    RuleEntry.key_java (by simp) _
  have hmax : maxLinesEntry.key =
      String.ofList (Unicode.lowerChar 'M' ++ "axLines".toList) :=
    RuleEntry.key_java (by simp) _
  rw [hshort, hmax]
  simp

/-- A document with another limit for the number of lines. -/
def oneLine : Config.Document :=
  ⟨[(.string maxLinesEntry.key, .mapping [(.string "maxLines", .int 1)])], none⟩

def oneLineRule : Rule :=
  ⟨maxLinesEntry.name, .java, true, .ofSource fun _ s => .ok (TextQuantity.inspect .lines 1 s)⟩

def shortLinesRule : Rule :=
  ⟨shortLinesEntry.name, .java, true,
    .ofSource fun _ s => .ok (TextQuantity.inspect .lineLength 3 s)⟩

theorem resolve_oneLine : Config.resolve [maxLinesEntry, shortLinesEntry] oneLine =
    .ok { java := [oneLineRule, shortLinesRule] } := by
  have hmax : oneLine.get? maxLinesEntry.key = some (.mapping [(.string "maxLines", .int 1)]) := by
    simp [oneLine, Config.Document.get?]
  have hshort : oneLine.get? shortLinesEntry.key = none := by
    simp [oneLine, Config.Document.get?, key_shortLinesEntry_ne.symm]
  simp only [Config.resolve, Config.buildAll, hmax, hshort]
  rfl

def oneLineAnalyzer : Analyzer := ⟨{ java := [oneLineRule, shortLinesRule] }, .default, { }⟩

theorem rulesFor_oneLineAnalyzer :
    oneLineAnalyzer.rulesFor "A.java" = [oneLineRule, shortLinesRule] := by
  rw [rulesFor, ofPath?_java]
  rfl

/-- A file with two lines, the first of which is too long. -/
def twoLines : Source where
  path := "A.java"
  text := "class A \x7b\n\x7d\n".toList
  tree := .named "program" none 0 12 []

def twoLinesDisk : Disk := ⟨[.file "A.java" (.text twoLines.text twoLines.tree)]⟩

theorem find_twoLinesDisk :
    twoLinesDisk.find true "A.java" = .ok (.file "A.java" (.text twoLines.text twoLines.tree)) :=
  Disk.find_eq_ok_of_entry (by decide) (by decide) rfl fun _ _ => Entry.noConfusion

theorem filesFor_twoLinesDisk : oneLineAnalyzer.filesFor twoLinesDisk ["A.java"] = ["A.java"] := by
  simp [oneLineAnalyzer, filesFor, Disk.filesUnder, Disk.isFile, find_twoLinesDisk, Entry.isFile]

theorem check_oneLineRule : oneLineRule.check twoLinesDisk "A.java" =
    .ok [.ofFile "A.java" (TextQuantity.tooManyLines "A.java" 2 1)] := by
  simp only [oneLineRule, Check.ofSource, Disk.source_eq_ok_of_find find_twoLinesDisk]
  rfl

theorem check_shortLinesRule : shortLinesRule.check twoLinesDisk "A.java" =
    .ok [⟨"A.java", 1, TextQuantity.lineTooLong "A.java" 1 9 3⟩] := by
  simp only [shortLinesRule, Check.ofSource, Disk.source_eq_ok_of_find find_twoLinesDisk]
  rfl

theorem exists_check_oneLineAnalyzer :
    ∀ path ∈ oneLineAnalyzer.filesFor twoLinesDisk ["A.java"],
      ∀ r ∈ oneLineAnalyzer.rulesFor path, ∃ vs, r.check twoLinesDisk path = .ok vs := by
  simp [filesFor_twoLinesDisk, rulesFor_oneLineAnalyzer, check_oneLineRule, check_shortLinesRule]

theorem checkPaths_oneLineAnalyzer :
    ∃ report, oneLineAnalyzer.checkPaths twoLinesDisk ["A.java"] = .ok report ∧
      report.violations.Perm [.ofFile "A.java" (TextQuantity.tooManyLines "A.java" 2 1),
        ⟨"A.java", 1, TextQuantity.lineTooLong "A.java" 1 9 3⟩] := by
  have hnone : ∀ path ∈ oneLineAnalyzer.filesFor twoLinesDisk ["A.java"],
      oneLineAnalyzer.fails twoLinesDisk path = false :=
    fun path hpath => fails_eq_false_iff.mpr (exists_check_oneLineAnalyzer path hpath)
  refine ⟨_, checkPaths_of_fails_eq_false hnone, (Violation.sort_perm _).trans ?_⟩
  simp [filesFor_twoLinesDisk, rulesFor_oneLineAnalyzer, Rule.found, check_oneLineRule,
    check_shortLinesRule]

/-- Both rules find something in the file. With the first switched off only the line that is too
long is left. -/
theorem checkPaths_switchOff_oneLine :
    Config.resolve [maxLinesEntry, shortLinesEntry] oneLine = .ok oneLineAnalyzer.rules ∧
      Config.resolve [maxLinesEntry, shortLinesEntry] (oneLine.switchOff maxLinesEntry.key) =
        .ok (oneLineAnalyzer.rules.without maxLinesEntry.key) ∧
      (∀ path ∈ oneLineAnalyzer.filesFor twoLinesDisk ["A.java"],
        ∀ r ∈ oneLineAnalyzer.rulesFor path, ∃ vs, r.check twoLinesDisk path = .ok vs) ∧
      ∃ before after, oneLineAnalyzer.checkPaths twoLinesDisk ["A.java"] = .ok before ∧
        (oneLineAnalyzer.without maxLinesEntry.key).checkPaths twoLinesDisk ["A.java"] =
          .ok after ∧ before.violations.length = 2 ∧
        after.violations = [⟨"A.java", 1, TextQuantity.lineTooLong "A.java" 1 9 3⟩] := by
  have hoff := checkPaths_switchOff resolve_oneLine maxLinesEntry.key
  obtain ⟨before, after, hbefore, hafter, hperm, -⟩ :=
    hoff.2 .default { } twoLinesDisk ["A.java"] exists_check_oneLineAnalyzer
  obtain ⟨report, hreport, hboth⟩ := checkPaths_oneLineAnalyzer
  obtain rfl : before = report := Except.ok.inj (hbefore.symm.trans hreport)
  have hfound : (oneLineAnalyzer.filesFor twoLinesDisk ["A.java"]).flatMap (fun path =>
      ((oneLineAnalyzer.rulesFor path).filter (·.key == maxLinesEntry.key)).flatMap
        (·.found twoLinesDisk path)) =
      [.ofFile "A.java" (TextQuantity.tooManyLines "A.java" 2 1)] := by
    have hkey : oneLineRule.key = maxLinesEntry.key := rfl
    have hkey' : shortLinesRule.key ≠ maxLinesEntry.key := key_shortLinesEntry_ne
    simp [filesFor_twoLinesDisk, rulesFor_oneLineAnalyzer, hkey, hkey', Rule.found,
      check_oneLineRule]
  refine ⟨resolve_oneLine, hoff.1, exists_check_oneLineAnalyzer, before, after, hbefore, hafter,
    hboth.length_eq, ?_⟩
  have hleft : after.violations.Perm [⟨"A.java", 1, TextQuantity.lineTooLong "A.java" 1 9 3⟩] := by
    rw [← List.perm_append_right_iff [.ofFile "A.java" (TextQuantity.tooManyLines "A.java" 2 1)]]
    exact (hfound ▸ hperm).trans (hboth.trans (List.Perm.swap _ _ _))
  exact List.perm_singleton.mp hleft

end TwoRules

end CodeStyle.Analyzer

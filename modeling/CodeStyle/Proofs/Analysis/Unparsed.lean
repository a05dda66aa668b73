import CodeStyle.Proofs.Analysis.EntryPoints
import CodeStyle.Proofs.Analysis.Independence
import CodeStyle.Proofs.Rule.Check
import CodeStyle.Proofs.SyntaxTree.Problems
import CodeStyle.Proofs.Text.Rows
import Mathlib.Data.List.Forall2

/-!
# Files that do not parse

All rules find the same in a file that holds no text, or whose text does not parse: one violation of
the file as a whole. An analysis of the file finds it once for every rule, and nothing else. What is
found in a text that does not parse lists the first ten problems of its tree.
-/
namespace CodeStyle

/-- Whether a file holds no text, or a text that does not parse. -/
def Content.IsUnparsed : Content → Prop
  | .text _ tree => tree.info.hasError = true
  | .bytes _ => True

section File

variable {disk : Disk} {path name : String} {content : Content}

theorem Check.unparsed_brackets (problems : String) :
    unparsed ("[" ++ problems ++ "]") = "Failed to parse file: [" ++ problems ++ "]" := by
  have hopen : "Failed to parse file: " ++ "[" = "Failed to parse file: [" := by simp
  calc unparsed ("[" ++ problems ++ "]")
      = "Failed to parse file: " ++ ("[" ++ problems ++ "]") := rfl
    _ = "Failed to parse file: " ++ "[" ++ problems ++ "]" := by simp only [String.append_assoc]
    _ = "Failed to parse file: [" ++ problems ++ "]" := by rw [hopen]

/-- In a source that does not parse all checks find its problems. -/
theorem Check.ofSource_eq_of_parses_eq_false {s : Source}
    {inspect : Disk → Source → Except CheckError (List Violation)}
    (hs : disk.source path = .ok s) (hparses : s.parses = false) : ofSource inspect disk path =
      .ok [⟨path, 0, "Failed to parse file: [" ++ String.intercalate ", " s.problemTexts ++ "]"⟩] := by
  simp only [ofSource, hs, hparses, Bool.false_eq_true, if_false, Source.problemLine,
    unparsed_brackets, Violation.ofFile]

/-- What is to be inspected in a file makes no difference if the file does not parse. -/
theorem Check.exists_ofSource_eq_of_isUnparsed
    (hfind : disk.find true path = .ok (.file name content)) (hcontent : content.IsUnparsed) :
    ∃ problems, ∀ inspect, ofSource inspect disk path =
      .ok [⟨path, 0, "Failed to parse file: [" ++ problems ++ "]"⟩] := by
  cases content with
  | bytes raw =>
    have hsource : disk.source path = .error .notText := by simp [Disk.source, Disk.read, hfind]
    exact ⟨ReadFault.notText.message, fun inspect => by
      simp only [ofSource, hsource, unparsed_brackets, Violation.ofFile]⟩
  | text chars tree =>
    have hparses : (Source.mk path chars tree).parses = false := by
      rw [Source.parses, show tree.info.hasError = true from hcontent]
      rfl
    exact ⟨_, fun inspect => ofSource_eq_of_parses_eq_false (Disk.source_eq_ok_of_find hfind) hparses⟩

/-- An analysis in which every rule finds the same violation finds nothing else. -/
theorem Analyzer.analyzeFile_eq_replicate {a : Analyzer} {v : Violation}
    (h : ∀ r ∈ a.rulesFor path, r.check disk path = .ok [v]) :
    a.analyzeFile disk path = .ok (List.replicate (a.rulesFor path).length v) := by
  have hfails : a.fails disk path = false := fails_eq_false_iff.mpr fun r hr => ⟨_, h r hr⟩
  have hfound : (a.rulesFor path).flatMap (·.found disk path) =
      (a.rulesFor path).flatMap fun _ => [v] :=
    List.flatMap_congr fun r hr => by rw [Rule.found, h r hr]
  rw [analyzeFile, FileOutcome.result_eq_ok_iff, failure_outcome, firstFailure?_eq_none_iff,
    violations_outcome, hfound]
  refine ⟨hfails, ?_⟩
  rw [← List.map_eq_flatMap, List.map_const']

/-- Every rule finds one violation in a file that does not parse, and they all find the same. So an
analysis of the file finds it once for every rule of the language that is switched on. -/
theorem check_and_analyzeFile_of_isUnparsed {language : Language}
    (hfind : disk.find true path = .ok (.file name content)) (hcontent : content.IsUnparsed)
    (hlanguage : Language.ofPath? path = some language) :
    ∃ problems, let v : Violation := ⟨path, 0, "Failed to parse file: [" ++ problems ++ "]"⟩
      (∀ (e : RuleEntry) block rule, e.build block = .ok rule → rule.check disk path = .ok [v]) ∧
      ∀ registry d set filter options, Config.resolve registry d = .ok set →
        ∃ rules, List.Forall₂ (fun e rule => e.build (d.get? e.key) = .ok rule) registry rules ∧
          set.forLanguage language = (rules.filter fun r => r.language == language && r.enabled) ∧
          Analyzer.analyzeFile ⟨set, filter, options⟩ disk path =
            .ok (List.replicate (set.forLanguage language).length v) := by
  obtain ⟨problems, hproblems⟩ := Check.exists_ofSource_eq_of_isUnparsed hfind hcontent
  have hcheck (e : RuleEntry) (block : Option Yaml) (rule : Rule) (hbuild : e.build block = .ok rule) :
      rule.check disk path = .ok [⟨path, 0, "Failed to parse file: [" ++ problems ++ "]"⟩] := by
    obtain ⟨c, hc, -⟩ := RuleEntry.exists_criterion_of_build_eq_ok hbuild
    obtain ⟨inspect, hinspect⟩ := Criterion.exists_ofSource_of_check_eq_ok hc
    rw [hinspect, hproblems]
  refine ⟨problems, hcheck, fun registry d set filter options hresolve => ?_⟩
  obtain ⟨rules, hrules, hset⟩ := Config.exists_rules_of_resolve_eq_ok hresolve
  have hbuilt : List.Forall₂ (fun e rule => e.build (d.get? e.key) = .ok rule) registry rules :=
    hrules.imp fun e rule h => h.1
  refine ⟨rules, hbuilt, hset language, ?_⟩
  have hall : ∀ r ∈ rules, r.check disk path =
      .ok [⟨path, 0, "Failed to parse file: [" ++ problems ++ "]"⟩] :=
    ((List.forall₂_and_left _ _).mp (List.Forall₂.flip
      (hbuilt.imp fun e rule hbuild => ⟨hcheck e _ rule hbuild, hbuild⟩))).1
  have hrulesFor : Analyzer.rulesFor ⟨set, filter, options⟩ path = set.forLanguage language := by
    rw [Analyzer.rulesFor, hlanguage]
  rw [Analyzer.analyzeFile_eq_replicate fun r hr => ?_, hrulesFor]
  rw [hrulesFor, hset language] at hr
  exact hall r (List.mem_of_mem_filter hr)

end File

namespace Analyzer

open Config (maxLinesEntry)

/-- Two rules find the same in a file that holds no text. -/
theorem analyzeFile_latinDisk :
    (∃ name, latinDisk.find true "A.java" = .ok (.file name (.bytes [0xff]))) ∧
      Content.IsUnparsed (.bytes [0xff]) ∧ Language.ofPath? "A.java" = some .java ∧
      Config.resolve [maxLinesEntry, shortLinesEntry] oneLine = .ok oneLineAnalyzer.rules ∧
      ∃ v : Violation, v.line = 0 ∧ oneLineAnalyzer.analyzeFile latinDisk "A.java" = .ok [v, v] := by
  have hpath : "A.java" ∈ latinPaths := by decide
  obtain ⟨name, hfind⟩ := find_latinDisk hpath
  have hcontent : Content.IsUnparsed (.bytes [0xff]) := trivial
  obtain ⟨problems, -, hanalyze⟩ := check_and_analyzeFile_of_isUnparsed hfind hcontent ofPath?_java
  obtain ⟨rules, -, -, htwice⟩ := hanalyze _ _ _ .default { } resolve_oneLine
  exact ⟨⟨name, hfind⟩, hcontent, ofPath?_java, resolve_oneLine, _, rfl, htwice⟩

end Analyzer

section Problems

/-- The line of a node is one more than the number of line ends in front of it, its column measures
what stands in front of it in its line. -/
theorem Source.start_eq {s : Source} {t : SyntaxTree} {head row rest : List Char}
    (htext : s.text = head ++ (row ++ rest)) (hhead : Text.Ended head) (hrow : '\n' ∉ row)
    (hstart : t.info.start = Text.byteLength head + Text.byteLength row) :
    s.start t = ⟨head.count '\n' + 1, Text.byteLength row + 1⟩ := by
  rw [start, htext, hstart, Text.startPosition, Text.placeAt_append hhead hrow,
    Text.length_lines_of_ended hhead]

/-- A source that does not parse is reported with the first ten of its topmost problems in document
order, each with its own line and column. Something is reported if every node with an error is a
problem or has a child that leads to one. -/
theorem Source.exists_problems_of_hasError (s : Source) (h : s.tree.info.hasError = true) :
    ∃ problems : List (List Nat × SyntaxTree),
      (∀ address t, (address, t) ∈ problems ↔ SyntaxTree.IsTopmostProblem s.tree address t) ∧
      problems.Pairwise (fun p q => p.1 < q.1) ∧
      (∀ p ∈ problems, ∀ q ∈ problems, p.1 <+: q.1 → p = q) ∧
      problems.map Prod.snd = s.tree.problems ∧
      s.problemTexts = (problems.take 10).map (fun p => s.problemText p.2) ∧
      (∀ t head row rest, s.text = head ++ (row ++ rest) → Text.Ended head → '\n' ∉ row →
        t.info.start = Text.byteLength head + Text.byteLength row →
        s.problemText t =
          "line " ++ toString (head.count '\n' + 1) ++ ", col " ++
            toString (Text.byteLength row + 1) ++ ": " ++
            if t.info.isMissing then "missing `" ++ t.kind ++ "`"
            else "unexpected `" ++ String.ofList (Text.trim ((s.textOf t).take 20)) ++ "`") ∧
      ((∀ t, SyntaxTree.IsNodeOf s.tree t → t.info.hasError = true →
          t.info.isMissing = true ∨ t.kind = SyntaxTree.errorKind ∨
            ∃ c ∈ t.children, c.info.hasError = true ∨ c.info.isMissing = true) →
        s.problemTexts ≠ []) ∧
      ∀ disk path, disk.source path = .ok s → ∀ (e : RuleEntry) block rule,
        e.build block = .ok rule → rule.check disk path =
          .ok [⟨path, 0,
            "Failed to parse file: [" ++ String.intercalate ", " s.problemTexts ++ "]"⟩] := by
  have htexts : s.problemTexts = (s.tree.problems.take 10).map s.problemText := by
    rw [problemTexts, SyntaxTree.collect_nil_eq_take, SyntaxTree.maximumProblems]
  refine ⟨s.tree.problemsAt, fun address t => SyntaxTree.mem_problemsAt_iff,
    SyntaxTree.pairwise_problemsAt s.tree, ?_, SyntaxTree.map_snd_problemsAt s.tree, ?_, ?_, ?_, ?_⟩
  · rintro ⟨address, t⟩ hp ⟨inner, u⟩ hq hinside
    have ht := SyntaxTree.mem_problemsAt_iff.mp hp
    have hu := SyntaxTree.mem_problemsAt_iff.mp hq
    obtain rfl : address = inner := ht.address_eq_of_isPrefix hu hinside
    obtain rfl : t = u := Option.some.inj (ht.at_address.symm.trans hu.at_address)
    rfl
  · rw [htexts, ← SyntaxTree.map_snd_problemsAt, ← List.map_take, List.map_map]
    rfl
  · intro t head row rest htext hhead hrow hstart
    rw [problemText, start_eq htext hhead hrow hstart]
    have hword (word : String) : toString word = word := rfl
    cases t.info.isMissing <;>
      simp only [Bool.false_eq_true, if_false, if_true, String.append_assoc, hword]
  · intro hnodes
    have hflagged : s.tree.isFlagged = true := by simp [SyntaxTree.isFlagged, h]
    have hne : s.tree.problems ≠ [] := SyntaxTree.problems_ne_nil s.tree hflagged fun t ht herror => by
      simpa [SyntaxTree.isProblem, SyntaxTree.isFlagged, or_assoc] using hnodes t ht herror
    simpa [htexts] using hne
  · intro disk path hs e block rule hbuild
    obtain ⟨c, hc, -⟩ := RuleEntry.exists_criterion_of_build_eq_ok hbuild
    obtain ⟨inspect, hinspect⟩ := Criterion.exists_ofSource_of_check_eq_ok hc
    have hparses : s.parses = false := by rw [parses, h]; rfl
    rw [hinspect, Check.ofSource_eq_of_parses_eq_false hs hparses]

/-- The semicolon that a grammar had to make up. -/
def missingSemicolon : SyntaxTree :=
  .node { kind := ";", isNamed := false, isMissing := true, hasError := true, start := 5, stop := 5 }
    []

/-- A declaration without its semicolon. -/
def openDeclaration : Source where
  path := "a.c"
  text := "int a".toList
  tree :=
    .node { kind := "translation_unit", hasError := true, start := 0, stop := 5 } [
      .node { kind := "declaration", hasError := true, start := 0, stop := 5 } [
        .named "primitive_type" (some "type") 0 3 [],
        .named "identifier" (some "declarator") 4 5 [],
        missingSemicolon]]

/-- Every node of the declaration with an error leads to the missing semicolon. -/
theorem forall_leads_openDeclaration : ∀ t, SyntaxTree.IsNodeOf openDeclaration.tree t →
    t.info.hasError = true → t.info.isMissing = true ∨ t.kind = SyntaxTree.errorKind ∨
      ∃ c ∈ t.children, c.info.hasError = true ∨ c.info.isMissing = true := by
  simp [openDeclaration, missingSemicolon, SyntaxTree.forall_isNodeOf_node_iff, SyntaxTree.named]

/-- The missing semicolon is reported behind the last character. -/
theorem problemTexts_openDeclaration : openDeclaration.tree.info.hasError = true ∧
    openDeclaration.problemTexts ≠ [] ∧
    (∃ address, SyntaxTree.IsTopmostProblem openDeclaration.tree address missingSemicolon) ∧
    openDeclaration.problemTexts = ["line 1, col 6: missing `;`"] := by
  have herror : openDeclaration.tree.info.hasError = true := rfl
  obtain ⟨problems, hmem, -, -, hproblems, htexts, hplaces, hne, -⟩ :=
    openDeclaration.exists_problems_of_hasError herror
  obtain ⟨⟨address, t⟩, rfl, ht⟩ := List.map_eq_singleton_iff.mp hproblems
  obtain rfl : t = missingSemicolon := ht
  have htext : openDeclaration.text = [] ++ ("int a".toList ++ []) := rfl
  have hplace : openDeclaration.problemText missingSemicolon = "line 1, col 6: missing `;`" :=
    hplaces missingSemicolon [] _ [] htext .nil (by decide) rfl
  exact ⟨herror, hne forall_leads_openDeclaration, ⟨address, (hmem address _).mp (by simp)⟩,
    htexts.trans (congrArg (fun text => [text]) hplace)⟩

end Problems

end CodeStyle

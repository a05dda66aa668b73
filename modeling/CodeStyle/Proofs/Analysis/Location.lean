import CodeStyle.Proofs.Analysis.Rules
import CodeStyle.Proofs.Analysis.Unparsed
import CodeStyle.Proofs.Disk.Follow
import CodeStyle.Proofs.Rule.Location

/-!
# Where violations point

A violation points at a line of a file that the run looked at, or at the file as a whole: if the
file does not parse, or if the rule is about the number of lines. Sorting and collecting violations
does not change where they point.
-/
namespace CodeStyle

/-- Whether a rule is the one about the number of lines of its language. -/
def Rule.IsMaxLines (r : Rule) : Prop := r.name = "MaxLines" ++ r.language.ruleSuffix

/-- Whether a violation of a rule points into a file: at one of its lines, or at line 0. -/
structure Violation.PointsInto (v : Violation) (r : Rule) (disk : Disk) (path : String) : Prop where
  file_eq : v.file = path
  exists_content : ∃ name content, disk.find true path = .ok (.file name content) ∧
    v.line ≤ content.lines.length ∧ (v.line = 0 ↔ content.IsUnparsed ∨ r.IsMaxLines)

/-- Of the registered criteria only those of these rules are about the number of lines. -/
theorem Registry.countsLines_iff {e : RuleEntry} (he : e ∈ Registry.all) :
    e.criterion.countsLines = true ↔ e.name = "MaxLines" ++ e.language.ruleSuffix := by
  have hall : ∀ e ∈ Registry.all, e.criterion.countsLines =
      (e.name == "MaxLines" ++ e.language.ruleSuffix) := by decide +kernel
  rw [hall e he, beq_iff_eq]

/-- A check that does not fail is one of a file. -/
theorem Check.exists_content_of_ofSource_eq_ok
    {inspect : Disk → Source → Except CheckError (List Violation)} {disk : Disk} {path : String}
    {vs : List Violation} (h : ofSource inspect disk path = .ok vs) :
    ∃ name content, disk.find true path = .ok (.file name content) := by
  cases hfind : disk.find true path with
  | ok e =>
    cases e with
    | file name content => exact ⟨name, content, rfl⟩
    | _ => simp [ofSource, Disk.source, Disk.read, hfind] at h
  | error fault =>
    have hfault : fault ≠ .notText := fun hnone =>
      disk.find_ne_error_notText true path (hnone ▸ hfind)
    simp [ofSource, Disk.source, Disk.read, hfind] at h

namespace RuleEntry

variable {e : RuleEntry} {block : Option Yaml} {rule : Rule} {disk : Disk} {path : String}
  {vs : List Violation} {v : Violation}

/-- Whether no node of a file is empty at which a rule may report, if the file parses. -/
def HasPlacesIn (e : RuleEntry) (disk : Disk) (path : String) : Prop :=
  ∀ s, disk.source path = .ok s → s.parses = true → e.criterion.HasPlaces e.language s

/-- What a registered rule finds in a file points into the file. -/
theorem pointsInto_of_mem_check (he : e ∈ Registry.all) (hbuild : e.build block = .ok rule)
    (hplaces : e.HasPlacesIn disk path) (hvs : rule.check disk path = .ok vs) (hv : v ∈ vs) :
    v.PointsInto rule disk path := by
  obtain ⟨c, hcheck, hvalue⟩ := exists_check_eq_ok_of_build_eq_ok hbuild
  obtain ⟨inspect, hinspect⟩ := Criterion.exists_ofSource_of_check_eq_ok hcheck
  obtain ⟨name, content, hfind⟩ := Check.exists_content_of_ofSource_eq_ok (hinspect ▸ hvs)
  by_cases hcontent : content.IsUnparsed
  · obtain ⟨problems, hproblems⟩ := Check.exists_ofSource_eq_of_isUnparsed hfind hcontent
    rw [hinspect, hproblems] at hvs
    obtain rfl := List.mem_singleton.mp (Except.ok.inj hvs ▸ hv)
    exact ⟨rfl, name, content, hfind, Nat.zero_le _, by simp [hcontent]⟩
  · cases content with
    | bytes raw => exact absurd trivial hcontent
    | text chars tree =>
      have hs := Disk.source_eq_ok_of_find hfind
      have hparses : (Source.mk path chars tree).parses = true := by
        rw [Source.parses, Bool.eq_false_iff.mpr hcontent]
        rfl
      -- A configuration may set another value, but it changes neither the places nor the name.
      have hmax : c.countsLines = true ↔ rule.IsMaxLines := by
        obtain ⟨hname, hlanguage⟩ := name_and_language_of_build_eq_ok hbuild
        rw [← c.countsLines_withoutValue, hvalue, Criterion.countsLines_withoutValue,
          Registry.countsLines_iff he, Rule.IsMaxLines, hname, hlanguage]
      obtain ⟨hfile, hline, hzero⟩ := Criterion.line_of_mem_check hcheck hs hparses
        ((hplaces _ hs hparses).of_withoutValue_eq hvalue.symm) hvs hv
      refine ⟨hfile, name, _, hfind, ?_, ?_⟩
      · simpa [Content.lines, Source.lines] using hline
      · rw [hzero, hmax]
        exact ⟨.inr, fun h => h.resolve_left hcontent⟩

end RuleEntry

namespace Analyzer

variable {a : Analyzer} {d : Config.Document} {disk : Disk} {path : String} {v : Violation}

/-- Whether no node of a file is empty at which a rule of its language may report. -/
def HasPlacesIn (disk : Disk) (path : String) : Prop :=
  ∀ e ∈ Registry.all, Language.ofPath? path = some e.language → e.HasPlacesIn disk path

/-- What the rules for a file find points into the file. -/
theorem pointsInto_of_mem_found (hrules : Config.resolve Registry.all d = .ok a.rules)
    (hplaces : HasPlacesIn disk path)
    (hv : v ∈ (a.rulesFor path).flatMap (·.found disk path)) :
    ∃ r ∈ a.rulesFor path, Language.ofPath? path = some r.language ∧ v.PointsInto r disk path := by
  obtain ⟨r, hr, hfound⟩ := List.mem_flatMap.mp hv
  obtain ⟨e, he, hbuild, hlanguage, -⟩ := (mem_rulesFor_iff hrules).mp hr
  have hsame : r.language = e.language := (RuleEntry.name_and_language_of_build_eq_ok hbuild).2
  cases hvs : r.check disk path with
  | error err => simp [Rule.found, hvs] at hfound
  | ok vs =>
    have hmem : v ∈ vs := by simpa [Rule.found, hvs] using hfound
    exact ⟨r, hr, hsame ▸ hlanguage, RuleEntry.pointsInto_of_mem_check he hbuild
      (hplaces e he hlanguage) hvs hmem⟩

/-- All that is reported points into a file: what a registered rule finds in a file into this file,
the violations of a report into files that the run looked at, and those of a file that is checked on
its own into that. -/
theorem pointsInto_of_mem_check_and_report :
    (∀ e ∈ Registry.all, ∀ block rule, e.build block = .ok rule → ∀ disk path vs,
      e.HasPlacesIn disk path → rule.check disk path = .ok vs →
        ∀ v ∈ vs, v.PointsInto rule disk path) ∧
    ∀ (a : Analyzer) d disk, Config.resolve Registry.all d = .ok a.rules →
      (∀ paths report, a.checkPaths disk paths = .ok report →
        (∀ file ∈ a.filesFor disk paths, HasPlacesIn disk file) →
        ∀ v ∈ report.violations, ∃ file ∈ a.filesFor disk paths, ∃ r ∈ a.rulesFor file,
          Language.ofPath? file = some r.language ∧ v.PointsInto r disk file) ∧
      ∀ path report, a.checkFile disk path = .ok report → HasPlacesIn disk path →
        ∀ v ∈ report.violations, ∃ r ∈ a.rulesFor path,
          Language.ofPath? path = some r.language ∧ v.PointsInto r disk path := by
  refine ⟨?_, fun a d disk hrules => ⟨?_, ?_⟩⟩
  · intro e he block rule hbuild disk path vs hplaces hvs v hv
    exact RuleEntry.pointsInto_of_mem_check he hbuild hplaces hvs hv
  · intro paths report hreport hplaces v hv
    obtain ⟨f, hf, rfl⟩ := Except.map_eq_ok_iff.mp hreport
    obtain ⟨-, rfl⟩ := findings_eq_ok_iff.mp hf
    rw [reportOn_violations, (Violation.sort_perm _).mem_iff] at hv
    obtain ⟨file, hfile, hfound⟩ := List.mem_flatMap.mp hv
    exact ⟨file, hfile, pointsInto_of_mem_found hrules (hplaces file hfile) hfound⟩
  · intro path report hreport hplaces v hv
    obtain ⟨-, rfl⟩ := checkFile_eq_ok_iff.mp hreport
    rw [reportOn_violations, (Violation.sort_perm _).mem_iff] at hv
    exact pointsInto_of_mem_found hrules hplaces hv

section SmallName

def smallClass : Source where
  path := "A.java"
  text := "class a \x7b\n\x7d\n".toList
  tree := .named "program" none 0 12 [
    .named "class_declaration" none 0 11 [
      .token "class" 0,
      .named "identifier" (some "name") 6 7 [],
      .named "class_body" (some "body") 8 11 [.token "\x7b" 8, .token "\x7d" 10]]]

def smallClassDisk : Disk := ⟨[.file "A.java" (.text smallClass.text smallClass.tree)]⟩

/-- The rule about the names of classes, as it is registered. -/
def classNameEntry : RuleEntry := .java "ClassName" (.naming .typeName "pattern" "[A-Z][a-zA-Z]*")

theorem source_smallClassDisk : smallClassDisk.source "A.java" = .ok smallClass :=
  Disk.source_eq_ok_of_singleton (by decide) (by decide) _ _

theorem fits_smallClass : smallClass.tree.fits smallClass.text = true := by decide

theorem hasPlacesIn_smallClassDisk : HasPlacesIn smallClassDisk "A.java" := by
  have hall : ∀ e ∈ Registry.all, ∀ t ∈ smallClass.tree.preorder,
      ∀ u ∈ e.criterion.places e.language t, u.info.start < u.info.stop := by decide +kernel
  intro e he hlanguage s hs hparses
  obtain rfl := Except.ok.inj (source_smallClassDisk.symm.trans hs)
  exact ⟨fits_smallClass, hall e he⟩

/-- No rule fails on the class. -/
theorem exists_check_smallClassDisk {e : RuleEntry} {block : Option Yaml} {rule : Rule}
    (hbuild : e.build block = .ok rule) : ∃ vs, rule.check smallClassDisk "A.java" = .ok vs := by
  obtain ⟨c, hcheck, -⟩ := RuleEntry.exists_check_eq_ok_of_build_eq_ok hbuild
  cases hlayout : c.layout? with
  | none => exact Criterion.exists_check_eq_ok hlayout hcheck source_smallClassDisk rfl
  | some l =>
    obtain rfl := Criterion.layout?_eq_some_iff.mp hlayout
    have hkinds : ∀ t ∈ smallClass.tree.preorder,
        (l.kinds e.language).contains t.kind = false := by
      cases l <;> cases e.language <;> decide
    refine (Criterion.exists_check_laying_eq_ok_iff hcheck source_smallClassDisk rfl
      fits_smallClass).mpr fun t ht hkind => ?_
    rw [hkinds t ht] at hkind
    contradiction

/-- The name is reported on its line. -/
theorem mem_check_smallClassDisk {check : Check} {vs : List Violation}
    (hcheck : classNameEntry.criterion.check .java = .ok check)
    (hvs : check smallClassDisk "A.java" = .ok vs) : ∃ v ∈ vs, v.line = 1 := by
  obtain ⟨p, hp, rfl⟩ := Except.map_eq_ok_iff.mp hcheck
  rw [Check.ofSource_eq source_smallClassDisk rfl] at hvs
  have haccepts : p.accepts "a" = false := by
    have hread : (match NamePattern.read "[A-Z][a-zA-Z]*" with
        | .ok p => p.accepts "a"
        | .error _ => true) = false := by decide +kernel
    rwa [hp] at hread
  have hvisit : ∀ t ∈ smallClass.tree.preorder, ∀ u ∈ NameSubject.typeName.uses t,
      smallClass.stringOf u.name = "a" ∧ smallClass.line u.place = 1 := by decide +kernel
  have hsome : ∃ t ∈ smallClass.tree.preorder,
      (NameSubject.typeName.uses t).isEmpty = false := by decide +kernel
  obtain ⟨t, ht, hne⟩ := hsome
  obtain ⟨u, hu⟩ := List.exists_mem_of_ne_nil _ (List.isEmpty_eq_false_iff.mp hne)
  obtain ⟨hname, hline⟩ := hvisit t ht u hu
  refine ⟨_, (SyntaxTree.mem_of_walk_eq_ok_iff hvs _).mpr ⟨t, ht, _, rfl,
    NameSubject.mem_visit_iff.mpr ⟨u, hu, ?_, rfl⟩⟩, hline⟩
  rw [hname]
  exact haccepts

theorem filesFor_smallClassDisk (hall : a.options.maxFiles = none) :
    a.filesFor smallClassDisk ["A.java"] = ["A.java"] := by
  have hfind := (Disk.find_of_source_eq_ok source_smallClassDisk).2
  obtain ⟨name, hfind⟩ := hfind
  exact filesFor_singleton_of_isFile hall (by simp [Disk.isFile, hfind, Entry.isFile])

theorem exists_checkPaths_smallClassDisk (hall : a.options.maxFiles = none)
    (hrules : Config.resolve Registry.all d = .ok a.rules) :
    ∃ report, a.checkPaths smallClassDisk ["A.java"] = .ok report ∧ report.violations.Perm
      ((a.rulesFor "A.java").flatMap (·.found smallClassDisk "A.java")) := by
  have hfiles := filesFor_smallClassDisk hall
  have hfails : ∀ file ∈ a.filesFor smallClassDisk ["A.java"],
      a.fails smallClassDisk file = false := by
    intro file hfile
    obtain rfl : file = "A.java" := by simpa [hfiles] using hfile
    refine fails_eq_false_iff.mpr fun r hr => ?_
    obtain ⟨e, -, hbuild, -⟩ := (mem_rulesFor_iff hrules).mp hr
    exact exists_check_smallClassDisk hbuild
  refine ⟨_, checkPaths_of_fails_eq_false hfails, (Violation.sort_perm _).trans ?_⟩
  rw [hfiles, List.flatMap_singleton]

/-- Without a configuration the name is reported. -/
theorem exists_found_smallClassDisk (hrules : Config.resolve Registry.all { } = .ok a.rules) :
    ∃ v ∈ (a.rulesFor "A.java").flatMap (·.found smallClassDisk "A.java"), v.line = 1 := by
  have hregistered : classNameEntry ∈ Registry.all := by
    simp [Registry.all, Registry.javaRules, classNameEntry]
  obtain ⟨check, hcheck, hbuild⟩ := Registry.exists_build_none_eq_ok hregistered
  obtain ⟨vs, hvs⟩ := exists_check_smallClassDisk hbuild
  obtain ⟨v, hv, hline⟩ := mem_check_smallClassDisk hcheck hvs
  have hrule : ⟨classNameEntry.name, classNameEntry.language, true, check⟩ ∈ a.rulesFor "A.java" :=
    (mem_rulesFor_iff hrules).mpr ⟨classNameEntry, hregistered, hbuild, ofPath?_java, rfl⟩
  refine ⟨v, List.mem_flatMap.mpr ⟨_, hrule, ?_⟩, hline⟩
  rw [Rule.found, hvs]
  exact hv

/-- A run over the class without a configuration reports its name, on the first of its two lines. -/
theorem exists_pointsInto_smallClassDisk :
    ∃ a : Analyzer, Config.resolve Registry.all { } = .ok a.rules ∧
      ∃ report, a.checkPaths smallClassDisk ["A.java"] = .ok report ∧
        (∀ file ∈ a.filesFor smallClassDisk ["A.java"], HasPlacesIn smallClassDisk file) ∧
        ∃ v ∈ report.violations, v.line = 1 ∧ ∃ r ∈ a.rulesFor "A.java",
          v.PointsInto r smallClassDisk "A.java" := by
  obtain ⟨set, hset⟩ := Registry.exists_resolve_eq_ok
  let a : Analyzer := ⟨set, { }, { }⟩
  have hfiles : a.filesFor smallClassDisk ["A.java"] = ["A.java"] := filesFor_smallClassDisk rfl
  have hplaces : ∀ file ∈ a.filesFor smallClassDisk ["A.java"],
      HasPlacesIn smallClassDisk file := by
    simp [hfiles, hasPlacesIn_smallClassDisk]
  have hrules : Config.resolve Registry.all { } = .ok a.rules := hset
  obtain ⟨report, hreport, hperm⟩ := exists_checkPaths_smallClassDisk rfl hrules
  obtain ⟨v, hv, hline⟩ := exists_found_smallClassDisk hrules
  obtain ⟨file, hfile, r, hr, -, hpoints⟩ := (pointsInto_of_mem_check_and_report.2 a { }
    smallClassDisk hrules).1 _ report hreport hplaces v (hperm.mem_iff.mpr hv)
  obtain rfl : file = "A.java" := by simpa [hfiles] using hfile
  exact ⟨a, hrules, report, hreport, hplaces, v, hperm.mem_iff.mpr hv, hline, r, hr, hpoints⟩

end SmallName

end Analyzer

end CodeStyle

import CodeStyle.Proofs.Disk.Read
import CodeStyle.Proofs.Rule.Layout
import CodeStyle.Proofs.Rule.Settings
import CodeStyle.Proofs.Source
import CodeStyle.Proofs.SyntaxTree.Walk

/-!
# Checks of files that parse

On a file that parses only a rule about a layout can fail, and only where it quotes the head of a
statement whose body does not start with a single byte of a line.
-/
namespace CodeStyle

namespace Check

theorem ofSource_eq {inspect : Disk → Source → Except CheckError (List Violation)} {disk : Disk}
    {path : String} {s : Source} (hs : disk.source path = .ok s) (hparses : s.parses = true) :
    ofSource inspect disk path = inspect disk s := by
  simp [ofSource, hs, hparses]

/-- Nothing is found without fault only in a file that is read and parses. -/
theorem exists_source_of_ofSource_eq_ok_nil
    {inspect : Disk → Source → Except CheckError (List Violation)} {disk : Disk} {path : String}
    (h : ofSource inspect disk path = .ok []) :
    ∃ s, disk.source path = .ok s ∧ s.parses = true := by
  unfold ofSource at h
  cases hsource : disk.source path with
  | error fault => cases fault <;> simp [hsource] at h
  | ok s =>
    cases hparses : s.parses with
    | false => simp [hsource, hparses] at h
    | true => exact ⟨s, rfl, hparses⟩

end Check

/-- Every criterion is checked by inspecting the source of a file. -/
theorem Criterion.exists_ofSource_of_check_eq_ok {c : Criterion} {language : Language}
    {check : Check} (h : c.check language = .ok check) :
    ∃ inspect, check = .ofSource inspect := by
  cases c with
  | naming subject key pattern =>
    obtain ⟨p, -, rfl⟩ := Except.map_eq_ok_iff.mp h
    exact ⟨_, rfl⟩
  | counting quantity key max => exact ⟨_, (Except.ok.inj h).symm⟩
  | measuring quantity key max => exact ⟨_, (Except.ok.inj h).symm⟩
  | indenting key width =>
    rw [Criterion.check] at h
    split at h
    · contradiction
    · exact ⟨_, (Except.ok.inj h).symm⟩
  | laying l => exact ⟨_, (Except.ok.inj h).symm⟩

/-- A rule that finds nothing has read the file. -/
theorem RuleEntry.exists_source_of_check_eq_ok_nil {e : RuleEntry} {block : Option Yaml}
    {rule : Rule} {disk : Disk} {path : String} (hbuild : e.build block = .ok rule)
    (h : rule.check disk path = .ok []) : ∃ s, disk.source path = .ok s ∧ s.parses = true := by
  obtain ⟨c, hc, -⟩ := exists_criterion_of_build_eq_ok hbuild
  obtain ⟨inspect, hinspect⟩ := Criterion.exists_ofSource_of_check_eq_ok hc
  exact Check.exists_source_of_ofSource_eq_ok_nil (hinspect ▸ h)

namespace Layout

variable {l : Layout} {language : Language} {quote : Quote} {s : Source} {t : SyntaxTree}

theorem exists_visit_eq_ok_iff :
    (∃ vs, l.visit language quote s t = .ok vs) ↔
      ((l.kinds language).contains t.kind = true →
        ∀ p ∈ l.heads quote s t, CanQuote quote s p) := by
  unfold visit
  split
  · rename_i hkind
    rw [Except.exists_map_eq_ok_iff, exists_isWellLaid_eq_ok_iff]
    exact ⟨fun h _ => h, fun h => h hkind⟩
  · rename_i hkind
    exact ⟨fun _ h => absurd h hkind, fun _ => ⟨[], rfl⟩⟩

theorem exists_span_of_visit_eq_error {e : CheckError} (h : l.visit language quote s t = .error e) :
    ∃ span, quote span = .error e := by
  unfold visit at h
  split at h
  · exact exists_span_of_isWellLaid_eq_error (Except.map_eq_error_iff.mp h)
  · contradiction

end Layout

section Parsed

variable {disk : Disk} {path : String} {s : Source} {language : Language} {check : Check}

/-- A criterion that demands no layout is checked without errors in every file that parses. -/
theorem Criterion.exists_check_eq_ok {c : Criterion} (hlayout : c.layout? = none)
    (hcheck : c.check language = .ok check) (hs : disk.source path = .ok s)
    (hparses : s.parses = true) : ∃ vs, check disk path = .ok vs := by
  cases c with
  | naming subject key pattern =>
    obtain ⟨p, -, rfl⟩ := Except.map_eq_ok_iff.mp hcheck
    rw [Check.ofSource_eq hs hparses]
    exact SyntaxTree.exists_walk_eq_ok_iff.mpr fun t _ => ⟨_, rfl⟩
  | counting quantity key max =>
    rw [← Except.ok.inj hcheck, Check.ofSource_eq hs hparses]
    exact SyntaxTree.exists_walk_eq_ok_iff.mpr fun t _ => ⟨_, rfl⟩
  | measuring quantity key max =>
    rw [← Except.ok.inj hcheck, Check.ofSource_eq hs hparses]
    exact ⟨_, rfl⟩
  | indenting key width =>
    rw [Criterion.check] at hcheck
    split at hcheck
    · contradiction
    · rw [← Except.ok.inj hcheck, Check.ofSource_eq hs hparses]
      exact ⟨_, rfl⟩
  | laying l => simp [layout?] at hlayout

theorem Criterion.check_laying_eq {l : Layout}
    (hcheck : (Criterion.laying l).check language = .ok check) (hs : disk.source path = .ok s)
    (hparses : s.parses = true) :
    check disk path = s.tree.walk (l.visit language (disk.excerpt path) s) := by
  rw [← Except.ok.inj hcheck, Check.ofSource_eq hs hparses, (Disk.find_of_source_eq_ok hs).1]

/-- A layout is checked without errors in a file that parses if all heads that are looked at have
excerpts. -/
theorem Criterion.exists_check_laying_eq_ok_iff {l : Layout}
    (hcheck : (Criterion.laying l).check language = .ok check) (hs : disk.source path = .ok s)
    (hparses : s.parses = true) (hfits : s.tree.fits s.text = true) :
    (∃ vs, check disk path = .ok vs) ↔
      ∀ t ∈ s.tree.preorder, (l.kinds language).contains t.kind = true →
        ∀ p ∈ l.heads (disk.excerpt path) s t, s.HasHead p.1 p.2 := by
  have hpath := (Disk.find_of_source_eq_ok hs).1
  rw [Criterion.check_laying_eq hcheck hs hparses, SyntaxTree.exists_walk_eq_ok_iff]
  refine forall₂_congr fun t ht => Layout.exists_visit_eq_ok_iff.trans (imp_congr_right fun _ => ?_)
  refine forall₂_congr fun p hp => ?_
  obtain ⟨hnode, hbody⟩ := Layout.isNodeOf_of_mem_heads hp
  have hroot := (SyntaxTree.isNodeOf_of_mem_preorder ht).trans hnode
  rw [← Source.exists_excerpt_head_iff hfits hroot hbody, Layout.CanQuote, hpath,
    Disk.excerpt_eq_ofText hs]

/-- A layout is checked with no errors but those of extraction. -/
theorem Criterion.exists_fault_of_check_laying_eq_error {l : Layout}
    (hcheck : (Criterion.laying l).check language = .ok check) (hs : disk.source path = .ok s)
    (hparses : s.parses = true) {e : CheckError} (h : check disk path = .error e) :
    ∃ fault : ExcerptFault, e = fault.toError path := by
  rw [Criterion.check_laying_eq hcheck hs hparses] at h
  obtain ⟨t, -, ht⟩ := SyntaxTree.exists_of_walk_eq_error h
  obtain ⟨span, hspan⟩ := Layout.exists_span_of_visit_eq_error ht
  rw [Disk.excerpt_eq_ofText hs] at hspan
  exact Excerpt.exists_fault_of_ofText_eq_error hspan

theorem RuleEntry.check_laying_of_build_eq_ok {e : RuleEntry} {block : Option Yaml} {rule : Rule}
    {l : Layout} (he : e.criterion = .laying l) (hbuild : e.build block = .ok rule) :
    (Criterion.laying l).check e.language = .ok rule.check := by
  obtain ⟨c, hcheck, hlayout⟩ := RuleEntry.exists_criterion_of_build_eq_ok hbuild
  rw [he] at hlayout
  rwa [Criterion.layout?_eq_some_iff.mp hlayout] at hcheck

/-- On a file that parses a rule fails only if it looks at the layout of statements and one of the
heads that it looks at has no excerpt. The error is then one of extraction. -/
theorem RuleEntry.exists_check_eq_ok_iff {e : RuleEntry} {block : Option Yaml} {rule : Rule}
    (hbuild : e.build block = .ok rule) (hs : disk.source path = .ok s)
    (hparses : s.parses = true) (hfits : s.tree.fits s.text = true) :
    ((∃ vs, rule.check disk path = .ok vs) ↔
      ∀ l, e.criterion = .laying l → ∀ t ∈ s.tree.preorder,
        (l.kinds e.language).contains t.kind = true →
          ∀ p ∈ l.heads (disk.excerpt path) s t, s.HasHead p.1 p.2) ∧
    ∀ err, rule.check disk path = .error err →
      ∃ fault : ExcerptFault, err = fault.toError path := by
  cases he : e.criterion.layout? with
  | none =>
    obtain ⟨c, hcheck, hlayout⟩ := RuleEntry.exists_criterion_of_build_eq_ok hbuild
    obtain ⟨vs, hvs⟩ := Criterion.exists_check_eq_ok (hlayout.trans he) hcheck hs hparses
    refine ⟨⟨fun _ l hl => ?_, fun _ => ⟨vs, hvs⟩⟩, fun err herr => ?_⟩
    · rw [Criterion.layout?_eq_some_iff.mpr hl] at he
      contradiction
    · rw [hvs] at herr
      contradiction
  | some l =>
    have hcriterion := Criterion.layout?_eq_some_iff.mp he
    have hcheck := RuleEntry.check_laying_of_build_eq_ok hcriterion hbuild
    rw [Criterion.exists_check_laying_eq_ok_iff hcheck hs hparses hfits]
    refine ⟨⟨fun h l' hl' => ?_, fun h => h l hcriterion⟩, fun err herr =>
      Criterion.exists_fault_of_check_laying_eq_error hcheck hs hparses herr⟩
    rw [hcriterion, Criterion.laying.injEq] at hl'
    exact hl' ▸ h

end Parsed

section Calls

/-- A class with a call of a method under a condition. The name of the method has five bytes. -/
def callSource (name : String) : Source where
  path := "A.java"
  text := "class A \x7b\n    void f() \x7b\n        if (a) ".toList ++ name.toList ++
    "();\n    \x7d\n\x7d\n".toList
  tree := .named "program" none 0 57 [
    .named "class_declaration" none 0 56 [
      .token "class" 0,
      .named "identifier" (some "name") 6 7 [],
      .named "class_body" (some "body") 8 56 [
        .token "\x7b" 8,
        .named "method_declaration" none 14 54 [
          .named "void_type" (some "type") 14 18 [],
          .named "identifier" (some "name") 19 20 [],
          .named "formal_parameters" (some "parameters") 20 22 [.token "(" 20, .token ")" 21],
          .named "block" (some "body") 23 54 [
            .token "\x7b" 23,
            .named "if_statement" none 33 48 [
              .token "if" 33,
              .named "parenthesized_expression" (some "condition") 36 39 [
                .token "(" 36,
                .named "identifier" none 37 38 [],
                .token ")" 38],
              .named "expression_statement" (some "consequence") 40 48 [
                .named "method_invocation" none 40 47 [
                  .named "identifier" (some "name") 40 45 [],
                  .named "argument_list" (some "arguments") 45 47 [.token "(" 45, .token ")" 46]],
                .token ";" 47]],
            .token "\x7d" 53]],
        .token "\x7d" 55]]]

def callDisk (name : String) : Disk :=
  ⟨[.file "A.java" (.text (callSource name).text (callSource name).tree)]⟩

theorem source_callDisk (name : String) :
    (callDisk name).source "A.java" = .ok (callSource name) :=
  Disk.source_eq_ok_of_singleton (by decide) (by decide) _ _

/-- A body that starts with a letter of one byte is no problem. -/
theorem check_call_of_plain_name :
    ∃ rule, (RuleEntry.java "IfFormat" (.laying .ifElse)).build none = .ok rule ∧
      ∃ vs, rule.check (callDisk "plans") "A.java" = .ok vs := by
  obtain ⟨rule, hbuild⟩ : ∃ rule,
      (RuleEntry.java "IfFormat" (.laying .ifElse)).build none = .ok rule := ⟨_, rfl⟩
  refine ⟨rule, hbuild,
    (RuleEntry.exists_check_eq_ok_iff hbuild (source_callDisk _) rfl rfl).1.mpr ?_⟩
  rintro l hl
  obtain rfl := Criterion.laying.inj hl
  decide

/-- A body that starts with a letter of two bytes ends the check of a file that parses. -/
theorem check_call_of_accented_name :
    ∃ rule, (RuleEntry.java "IfFormat" (.laying .ifElse)).build none = .ok rule ∧
      (callSource "élan").parses = true ∧
      (callSource "élan").tree.fits (callSource "élan").text = true ∧
      rule.check (callDisk "élan") "A.java" =
        .error (.extraction "A.java" "columns 9..16 do not fit line 3 (23 bytes)") := by
  obtain ⟨rule, hbuild⟩ : ∃ rule,
      (RuleEntry.java "IfFormat" (.laying .ifElse)).build none = .ok rule := ⟨_, rfl⟩
  have hcheck := RuleEntry.check_laying_of_build_eq_ok rfl hbuild
  refine ⟨rule, hbuild, rfl, rfl, ?_⟩
  rw [Criterion.check_laying_eq hcheck (source_callDisk _) rfl, SyntaxTree.walk_eq,
    funext (Disk.excerpt_eq_ofText (source_callDisk "élan"))]
  rfl

end Calls

end CodeStyle

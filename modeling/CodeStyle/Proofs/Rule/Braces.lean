import CodeStyle.Proofs.Rule.Check
import CodeStyle.Proofs.Rule.Form
import CodeStyle.Proofs.SyntaxTree.Tokens

/-!
# Statements in braces

A walk reaches every loop and every condition, those behind the keyword for the other case of a
condition as well. So a file in which no rule about a layout finds anything has no loop and no case
of a condition without braces, and all heads of such statements are on one line.
-/
namespace CodeStyle

namespace Layout

variable {l : Layout} {language : Language} {quote : Quote} {s : Source} {t : SyntaxTree}

theorem visit_eq_ok_nil_iff : l.visit language quote s t = .ok [] ↔
    ((l.kinds language).contains t.kind = true → l.isWellLaid language quote s t = .ok true) := by
  unfold visit
  split
  · rename_i hkind
    rw [Except.map_eq_ok_iff, forall_prop_of_true hkind]
    constructor
    · rintro ⟨ok, hok, hnil⟩
      cases ok with
      | true => exact hok
      | false => simp at hnil
    · exact fun h => ⟨true, h, rfl⟩
  · rename_i hkind
    exact ⟨fun _ h => absurd h hkind, fun _ => rfl⟩

theorem isBraced_eq_ok_true_iff {head : Regex} {body : Option SyntaxTree} :
    isBraced quote s head t body = .ok true ↔ ∃ b text, body = some b ∧
      quote ⟨s.start t, s.start b⟩ = .ok text ∧ Regex.isMatch head text = true ∧
        InBraces (s.textOf b) := by
  cases body with
  | none => simp [isBraced]
  | some b => simp [isBraced, Except.map_eq_ok_iff, isMatch_braced_iff]

theorem isWellLaid_ifElse_eq_ok_true_iff :
    isWellLaid language quote s t .ifElse = .ok true ↔
      isBraced quote s (conditionHead "if") t (t.field? "consequence") = .ok true ∧
        isOtherBraced s language t = true := by
  rw [isWellLaid, Except.map_eq_ok_iff]
  constructor
  · rintro ⟨ok, hok, hboth⟩
    obtain ⟨rfl, hother⟩ := Bool.and_eq_true_iff.mp hboth
    exact ⟨hok, hother⟩
  · rintro ⟨hok, hother⟩
    exact ⟨true, hok, hother⟩

/-- The statement behind the keyword for the other case. In C a clause wraps it, with nothing else
in it but comments. -/
def IsElseBody (language : Language) (t other : SyntaxTree) : Prop :=
  match language with
  | .java => t.field? "alternative" = some other
  | .native => ∃ clause, t.field? "alternative" = some clause ∧ clause.codeChildren = [other]

theorem otherCase?_eq_some_of_isElseBody {other : SyntaxTree} (h : IsElseBody language t other) :
    otherCase? language t = some other := by
  cases language with
  | java => exact h
  | native =>
    obtain ⟨clause, hclause, hcode⟩ := h
    rw [otherCase?, hclause, Option.bind_some, hcode, List.getLast?_singleton]

theorem inBraces_of_isOtherBraced {other : SyntaxTree} (h : isOtherBraced s language t = true)
    (hother : IsElseBody language t other) (hkind : other.kind ≠ "if_statement") :
    InBraces (s.textOf other) := by
  rw [isOtherBraced, otherCase?_eq_some_of_isElseBody hother] at h
  simpa [hkind, isMatch_braced_iff] using h

/-- A statement whose head is on one line and ends in a parenthesis, a blank and a brace, and whose
body is in braces. -/
structure HasBracedBody (s : Source) (t body : SyntaxTree) : Prop where
  head : ∃ text, Text.slice? s.text t.info.start (body.info.start + 1) = some text ∧
    '\n' ∉ text ∧ ") \x7b".toList <:+ text
  body : InBraces (s.textOf body)

/-- The heads of loops and of conditions. -/
def loopHeads : List Regex := [forHead, conditionHead "if", conditionHead "while"]

theorem isSuffix_of_isMatch_loopHead {head : Regex} (hhead : head ∈ loopHeads) {text : List Char}
    (h : Regex.isMatch head text = true) : '\n' ∉ text ∧ ") \x7b".toList <:+ text := by
  simp only [loopHeads, List.mem_cons, List.not_mem_nil, or_false] at hhead
  rcases hhead with rfl | rfl | rfl
  · exact ⟨not_mem_of_isMatch_forHead h, isSuffix_of_isMatch_forHead h⟩
  · exact ⟨not_mem_of_isMatch_conditionHead (by simp) h, isSuffix_of_isMatch_conditionHead h⟩
  · exact ⟨not_mem_of_isMatch_conditionHead (by simp) h, isSuffix_of_isMatch_conditionHead h⟩

/-- A statement that passes is one in the text of the tree. -/
theorem exists_hasBracedBody_of_isBraced {file : String} (hfits : s.tree.fits s.text = true)
    (ht : SyntaxTree.IsNodeOf s.tree t) {head : Regex} (hhead : head ∈ loopHeads) {field : String}
    (h : isBraced (Excerpt.ofText file s.text) s head t (t.field? field) = .ok true) :
    ∃ body, t.field? field = some body ∧ HasBracedBody s t body := by
  obtain ⟨body, text, hbody, hquote, hmatch, hbraces⟩ := isBraced_eq_ok_true_iff.mp h
  obtain ⟨hfeed, hsuffix⟩ := isSuffix_of_isMatch_loopHead hhead hmatch
  have hnode := ht.fits hfits
  obtain ⟨hchild, hle, -⟩ :=
    SyntaxTree.fits_of_mem_children hnode (SyntaxTree.mem_children_of_field? hbody)
  have hslice := Excerpt.slice?_eq_of_ofText_eq_ok hle (SyntaxTree.fits_iff.mp hnode).1
    (SyntaxTree.fits_iff.mp hchild).1 hquote hfeed
  exact ⟨body, hbody, ⟨text, hslice, hfeed, hsuffix⟩, hbraces⟩

end Layout

section Quiet

variable {disk : Disk} {path : String} {s : Source} {language : Language} {check : Check}

/-- A layout finds nothing in a file that parses if every node that it concerns passes. -/
theorem Criterion.check_laying_eq_ok_nil_iff {l : Layout}
    (hcheck : (Criterion.laying l).check language = .ok check) (hs : disk.source path = .ok s)
    (hparses : s.parses = true) :
    check disk path = .ok [] ↔ ∀ t ∈ s.tree.preorder, (l.kinds language).contains t.kind = true →
      l.isWellLaid language (Excerpt.ofText path s.text) s t = .ok true := by
  have hquote : disk.excerpt s.path = Excerpt.ofText path s.text := by
    rw [(Disk.find_of_source_eq_ok hs).1]
    exact funext (Disk.excerpt_eq_ofText hs)
  rw [← Except.ok.inj hcheck, Check.ofSource_eq hs hparses, SyntaxTree.walk_eq_ok_nil_iff, hquote]
  simp only [Layout.visit_eq_ok_nil_iff]

/-- Whether no rule about a layout finds anything in a file. Such a rule finds the same with all
blocks that it can be built from. -/
def IsLaidOut (language : Language) (disk : Disk) (path : String) : Prop :=
  ∀ e ∈ Registry.all, e.language = language → e.criterion.layout? ≠ none →
    ∃ block rule, e.build block = .ok rule ∧ rule.check disk path = .ok []

theorem Registry.exists_laying (language : Language) {l : Layout}
    (hl : l ∈ [Layout.forLoop, .ifElse, .whileLoop]) :
    ∃ e ∈ Registry.all, e.language = language ∧ e.criterion = .laying l := by
  simp only [List.mem_cons, List.not_mem_nil, or_false] at hl
  cases language with
  | java =>
    rcases hl with rfl | rfl | rfl
    · exact ⟨.java "ForFormat" (.laying .forLoop), by simp [all, javaRules], rfl, rfl⟩
    · exact ⟨.java "IfFormat" (.laying .ifElse), by simp [all, javaRules], rfl, rfl⟩
    · exact ⟨.java "WhileFormat" (.laying .whileLoop), by simp [all, javaRules], rfl, rfl⟩
  | native =>
    rcases hl with rfl | rfl | rfl
    · exact ⟨.native "ForFormat" (.laying .forLoop), by simp [all, nativeRules], rfl, rfl⟩
    · exact ⟨.native "IfFormat" (.laying .ifElse), by simp [all, nativeRules], rfl, rfl⟩
    · exact ⟨.native "WhileFormat" (.laying .whileLoop), by simp [all, nativeRules], rfl, rfl⟩

theorem IsLaidOut.isWellLaid {l : Layout} (h : IsLaidOut language disk path)
    (hl : l ∈ [Layout.forLoop, .ifElse, .whileLoop]) (hs : disk.source path = .ok s)
    (hparses : s.parses = true) {t : SyntaxTree} (ht : t ∈ s.tree.preorder)
    (hkind : (l.kinds language).contains t.kind = true) :
    l.isWellLaid language (Excerpt.ofText path s.text) s t = .ok true := by
  obtain ⟨e, he, rfl, hcriterion⟩ := Registry.exists_laying language hl
  have hlayout : e.criterion.layout? ≠ none := by simp [hcriterion, Criterion.layout?]
  obtain ⟨block, rule, hbuild, hnil⟩ := h e he rfl hlayout
  have hcheck := RuleEntry.check_laying_of_build_eq_ok hcriterion hbuild
  exact (Criterion.check_laying_eq_ok_nil_iff hcheck hs hparses).mp hnil t ht hkind

/-- Where no rule about a layout finds anything, all bodies of loops and of both cases of conditions
are in braces, at any depth, and their heads are on one line. Only a further condition may follow
the keyword for the other case without braces of its own. -/
theorem IsLaidOut.hasBracedBodies (h : IsLaidOut language disk path)
    (hs : disk.source path = .ok s) (hparses : s.parses = true)
    (hfits : s.tree.fits s.text = true) (htokens : s.tree.hasLeafTokens = true) {t : SyntaxTree}
    (ht : SyntaxTree.IsNodeOf s.tree t) (hnamed : t.info.isNamed = true) :
    (t.kind = "for_statement" ∨ t.kind = "while_statement" →
      ∃ body, t.field? "body" = some body ∧ Layout.HasBracedBody s t body) ∧
    (t.kind = "if_statement" →
      (∃ body, t.field? "consequence" = some body ∧ Layout.HasBracedBody s t body) ∧
      ∀ other, Layout.IsElseBody language t other → other.kind ≠ "if_statement" →
        Layout.InBraces (s.textOf other)) := by
  have hvisited := SyntaxTree.mem_preorder_of_isNodeOf htokens ht hnamed
  refine ⟨?_, fun hkind => ?_⟩
  · rintro (hkind | hkind)
    · have hwell := h.isWellLaid (l := .forLoop) (by simp) hs hparses hvisited
        (by simp [Layout.kinds, hkind])
      exact Layout.exists_hasBracedBody_of_isBraced hfits ht (by simp [Layout.loopHeads]) hwell
    · have hwell := h.isWellLaid (l := .whileLoop) (by simp) hs hparses hvisited
        (by simp [Layout.kinds, hkind])
      exact Layout.exists_hasBracedBody_of_isBraced hfits ht (by simp [Layout.loopHeads]) hwell
  · have hwell := h.isWellLaid (l := .ifElse) (by simp) hs hparses hvisited
      (by simp [Layout.kinds, hkind])
    obtain ⟨hbody, hother⟩ := Layout.isWellLaid_ifElse_eq_ok_true_iff.mp hwell
    exact ⟨Layout.exists_hasBracedBody_of_isBraced hfits ht (by simp [Layout.loopHeads]) hbody,
      fun other => Layout.inBraces_of_isOtherBraced hother⟩

end Quiet

section ElseChain

/-- A function with loops below both cases of a condition behind another. -/
def elseChain : Source where
  path := "a.c"
  text := ("void f() \x7bif (a) \x7bb();\x7d else if (c) \x7bwhile (d) \x7b\x7d\x7d else " ++
    "/* other */ \x7bfor (i; j; k) \x7b\x7d\x7d\x7d").toList
  tree :=
    .named "translation_unit" none 0 87 [
      .named "function_definition" none 0 87 [
        .named "primitive_type" (some "type") 0 4 [],
        .named "function_declarator" (some "declarator") 5 8 [],
        .named "compound_statement" (some "body") 9 87 [
          .token "\x7b" 9,
          .named "if_statement" none 10 86 [
            .token "if" 10,
            .named "parenthesized_expression" (some "condition") 13 16 [],
            .named "compound_statement" (some "consequence") 17 23 [
              .token "\x7b" 17,
              .named "expression_statement" none 18 22 [],
              .token "\x7d" 22],
            .named "else_clause" (some "alternative") 24 86 [
              .token "else" 24,
              .named "if_statement" none 29 86 [
                .token "if" 29,
                .named "parenthesized_expression" (some "condition") 32 35 [],
                .named "compound_statement" (some "consequence") 36 50 [
                  .token "\x7b" 36,
                  .named "while_statement" none 37 49 [
                    .token "while" 37,
                    .named "parenthesized_expression" (some "condition") 43 46 [],
                    .named "compound_statement" (some "body") 47 49 [
                      .token "\x7b" 47,
                      .token "\x7d" 48]],
                  .token "\x7d" 49],
                .named "else_clause" (some "alternative") 51 86 [
                  .token "else" 51,
                  .named "comment" none 56 67 [],
                  .named "compound_statement" none 68 86 [
                    .token "\x7b" 68,
                    .named "for_statement" none 69 85 [
                      .token "for" 69,
                      .named "compound_statement" (some "body") 83 85 [
                        .token "\x7b" 83,
                        .token "\x7d" 84]],
                    .token "\x7d" 85]]]]],
          .token "\x7d" 86]]]

def chainDisk : Disk := ⟨[.file "a.c" (.text elseChain.text elseChain.tree)]⟩

theorem source_chainDisk : chainDisk.source "a.c" = .ok elseChain :=
  Disk.source_eq_ok_of_singleton (by decide) (by decide) _ _

theorem isWellLaid_elseChain (l : Layout) : ∀ t ∈ elseChain.tree.preorder,
    (l.kinds .native).contains t.kind = true →
      l.isWellLaid .native (Excerpt.ofText "a.c" elseChain.text) elseChain t = .ok true := by
  cases l <;> decide +kernel

theorem isLaidOut_elseChain : IsLaidOut .native chainDisk "a.c" := by
  intro e _ hlanguage hlayout
  obtain ⟨l, hl⟩ := Option.ne_none_iff_exists'.mp hlayout
  have hcriterion := Criterion.layout?_eq_some_iff.mp hl
  obtain ⟨rule, hbuild⟩ : ∃ rule, e.build none = .ok rule := by
    obtain ⟨name, language, criterion⟩ := e
    obtain rfl : criterion = .laying l := hcriterion
    exact ⟨_, rfl⟩
  have hcheck := RuleEntry.check_laying_of_build_eq_ok hcriterion hbuild
  rw [hlanguage] at hcheck
  exact ⟨none, rule, hbuild,
    (Criterion.check_laying_eq_ok_nil_iff hcheck source_chainDisk rfl).mpr (isWellLaid_elseChain l)⟩

/-- The loop in the last branch is reached and has its braces. -/
theorem hasBracedBody_elseChain :
    IsLaidOut .native chainDisk "a.c" ∧ elseChain.parses = true ∧
      elseChain.tree.fits elseChain.text = true ∧ elseChain.tree.hasLeafTokens = true ∧
      ∃ t, SyntaxTree.IsNodeOf elseChain.tree t ∧ t.info.isNamed = true ∧
        t.kind = "for_statement" ∧
        ∃ body, t.field? "body" = some body ∧ Layout.HasBracedBody elseChain t body := by
  have hfits : elseChain.tree.fits elseChain.text = true := by decide +kernel
  have htokens : elseChain.tree.hasLeafTokens = true := by decide
  obtain ⟨t, ht, hkind, hnamed⟩ : ∃ t ∈ elseChain.tree.preorder, t.kind = "for_statement" ∧
      t.info.isNamed = true := by decide +kernel
  have hnode := SyntaxTree.isNodeOf_of_mem_preorder ht
  have hbraced := IsLaidOut.hasBracedBodies isLaidOut_elseChain source_chainDisk rfl hfits htokens
    hnode hnamed
  exact ⟨isLaidOut_elseChain, rfl, hfits, htokens, t, hnode, hnamed, hkind, hbraced.1 (.inl hkind)⟩

end ElseChain
end CodeStyle

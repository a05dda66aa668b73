import CodeStyle.Proofs.Rule.Check
import CodeStyle.Proofs.Rule.Overlay
import CodeStyle.Proofs.Text.LineEnds
import CodeStyle.Rule.Registry

/-!
# What stays the same under other line ends

Excerpts and the rules about the number of lines, their length and their indentation look at a text
only through its lines. So they give the same for two texts that differ in their line ends alone, be
it an excerpt, a fault, or violations with their lines and messages.
-/
namespace CodeStyle

open Text (HasOtherEnds)

namespace Criterion

/-- Whether a criterion is about the lines of a text, and not about its tree. -/
def isAboutLines : Criterion → Bool
  | measuring _ _ _ => true
  | indenting _ _ => true
  | _ => false

theorem isAboutLines_withoutValue (c : Criterion) :
    c.withoutValue.isAboutLines = c.isAboutLines := by
  cases c <;> rfl

/-- A check of lines looks at nothing but the path and the lines. -/
theorem exists_inspect_of_isAboutLines {c : Criterion} {language : Language} {check : Check}
    (hc : c.isAboutLines = true) (hcheck : c.check language = .ok check) :
    ∃ inspect : String → List (List Char) → List Violation,
      check = .ofSource fun _ s => .ok (inspect s.path s.lines) := by
  cases c with
  | measuring quantity key max =>
    rw [← Except.ok.inj hcheck]
    cases quantity with
    | lines =>
      exact ⟨fun path lines => if lines.length ≤ max then [] else
        [.ofFile path (TextQuantity.tooManyLines path lines.length max)], rfl⟩
    | lineLength => exact ⟨fun path lines => TextQuantity.longLines path max 1 lines, rfl⟩
  | indenting key width =>
    rw [Criterion.check] at hcheck
    split at hcheck
    · contradiction
    · rw [← Except.ok.inj hcheck]
      exact ⟨fun path lines => Indentation.misaligned path width 1 lines, rfl⟩
  | naming | counting | laying => contradiction

end Criterion

/-- A rule about lines is about lines under every configuration. -/
theorem RuleEntry.exists_inspect_of_build_eq_ok {e : RuleEntry} {block : Option Yaml} {rule : Rule}
    (he : e.criterion.isAboutLines = true) (hbuild : e.build block = .ok rule) :
    ∃ inspect : String → List (List Char) → List Violation,
      rule.check = .ofSource fun _ s => .ok (inspect s.path s.lines) := by
  obtain ⟨c, hcheck, hvalue⟩ := RuleEntry.exists_check_eq_ok_of_build_eq_ok hbuild
  have hc : c.isAboutLines = true := by
    rw [← c.isAboutLines_withoutValue, hvalue, Criterion.isAboutLines_withoutValue, he]
  exact Criterion.exists_inspect_of_isAboutLines hc hcheck

/-- The rules about lines. -/
example : (Registry.all.filter (·.criterion.isAboutLines)).map (·.name) =
    ["MaxLinesJavaRule", "MaxLineLengthJavaRule", "SpaceIndentationJavaRule",
      "MaxLinesNativeRule", "MaxLineLengthNativeRule", "SpaceIndentationNativeRule"] := by
  decide

/-- A rule about lines finds the same in two files of one name with the same lines. -/
theorem RuleEntry.exists_check_eq_ok_of_lines_eq {e : RuleEntry} {block : Option Yaml} {rule : Rule}
    (he : e.criterion.isAboutLines = true) (hbuild : e.build block = .ok rule) {disk disk' : Disk}
    {path : String} {s t : Source} (hs : disk.source path = .ok s) (ht : disk'.source path = .ok t)
    (hsparses : s.parses = true) (htparses : t.parses = true) (h : s.lines = t.lines) :
    ∃ vs, rule.check disk path = .ok vs ∧ rule.check disk' path = .ok vs := by
  obtain ⟨inspect, hinspect⟩ := exists_inspect_of_build_eq_ok he hbuild
  have hpath : s.path = t.path :=
    (Disk.find_of_source_eq_ok hs).1.trans (Disk.find_of_source_eq_ok ht).1.symm
  rw [hinspect, Check.ofSource_eq hs hsparses, Check.ofSource_eq ht htparses, hpath, h]
  exact ⟨_, rfl, rfl⟩

/-- In a text without carriage returns that ends within a line it does not matter whether a line feed
follows and whether line feeds have carriage returns in front: every span has the same excerpt or the
same fault, every limit and every width leads to the same violations, and so does every rule about
lines, however it is configured, where the file parses. -/
theorem ofText_and_inspect_eq_of_hasOtherEnds {text other : List Char} (hne : text ≠ [])
    (hreturn : '\r' ∉ text) (hlast : text.getLast? ≠ some '\n') (h : HasOtherEnds text other) :
    (∀ file span, Excerpt.ofText file other span = Excerpt.ofText file text span) ∧
    (∀ path tree tree' max,
      TextQuantity.inspect .lines max ⟨path, other, tree'⟩ =
          TextQuantity.inspect .lines max ⟨path, text, tree⟩ ∧
        TextQuantity.inspect .lineLength max ⟨path, other, tree'⟩ =
          TextQuantity.inspect .lineLength max ⟨path, text, tree⟩) ∧
    (∀ path tree tree' width, Indentation.inspect width ⟨path, other, tree'⟩ =
      Indentation.inspect width ⟨path, text, tree⟩) ∧
    ∀ (e : RuleEntry) (block : Option Yaml) (rule : Rule),
      e.criterion.isAboutLines = true → e.build block = .ok rule →
      ∀ (disk disk' : Disk) (path : String) (tree tree' : SyntaxTree),
        disk.source path = .ok ⟨path, text, tree⟩ → disk'.source path = .ok ⟨path, other, tree'⟩ →
        Source.parses ⟨path, text, tree⟩ = true → Source.parses ⟨path, other, tree'⟩ = true →
        ∃ vs, rule.check disk path = .ok vs ∧ rule.check disk' path = .ok vs := by
  have hlines : Text.lines other = Text.lines text := h.lines_eq hne hreturn hlast
  have hsource : ∀ path tree tree',
      Source.lines ⟨path, other, tree'⟩ = Source.lines ⟨path, text, tree⟩ := fun _ _ _ => hlines
  refine ⟨?_, ?_, ?_, ?_⟩
  · intro file span
    rw [Excerpt.ofText, Excerpt.ofText, hlines]
  · intro path tree tree' max
    constructor
    · rw [TextQuantity.inspect, TextQuantity.inspect, hsource path tree tree']
    · rw [TextQuantity.inspect, TextQuantity.inspect, hsource path tree tree']
  · intro path tree tree' width
    rw [Indentation.inspect, Indentation.inspect, hsource path tree tree']
  · intro e block rule he hbuild disk disk' path tree tree' hs hs' hparses hparses'
    exact RuleEntry.exists_check_eq_ok_of_lines_eq he hbuild hs hs' hparses hparses' hlines.symm

section Variables

/-- Two variables, the second behind two spaces in a line of its own. -/
def twoVariables : List Char := "int a;\n  int b;".toList

/-- The same with carriage returns and with an end of the last line. -/
def twoVariablesClosed : List Char := "int a;\r\n  int b;\r\n".toList

/-- The tree of a file that declares two variables. -/
def twoVariablesTree (second stop : Nat) : SyntaxTree :=
  .named "translation_unit" none 0 stop [
    .named "declaration" none 0 6 [
      .named "primitive_type" (some "type") 0 3 [],
      .named "identifier" (some "declarator") 4 5 [],
      .token ";" 5],
    .named "declaration" none second (second + 6) [
      .named "primitive_type" (some "type") second (second + 3) [],
      .named "identifier" (some "declarator") (second + 4) (second + 5) [],
      .token ";" (second + 5)]]

/-- A disk with a text as its only file. -/
def textDisk (text : List Char) (tree : SyntaxTree) : Disk := ⟨[.file "a.c" (.text text tree)]⟩

theorem source_textDisk (text : List Char) (tree : SyntaxTree) :
    (textDisk text tree).source "a.c" = .ok ⟨"a.c", text, tree⟩ :=
  Disk.source_eq_ok_of_singleton (by decide) (by decide) _ _

/-- The second variable is reported in its line, and an excerpt has no carriage return. -/
theorem ofText_and_check_twoVariablesClosed :
    twoVariables ≠ [] ∧ '\r' ∉ twoVariables ∧ twoVariables.getLast? ≠ some '\n' ∧
    HasOtherEnds twoVariables twoVariablesClosed ∧
    Excerpt.ofText "a.c" twoVariablesClosed ⟨⟨1, 5⟩, ⟨2, 5⟩⟩ = .ok "a;\n  int".toList ∧
    ∃ rule, RuleEntry.nativeIndentation.build none = .ok rule ∧
      rule.check (textDisk twoVariablesClosed (twoVariablesTree 10 18)) "a.c" =
        .ok [⟨"a.c", 2, "Not 4 spaces of indentation used at 'a.c' line 2."⟩] := by
  have hne : twoVariables ≠ [] := by decide
  have hreturn : '\r' ∉ twoVariables := by decide
  have hlast : twoVariables.getLast? ≠ some '\n' := by decide
  have hends : HasOtherEnds twoVariables twoVariablesClosed := .closedThenReturned
  obtain ⟨hexcerpt, -, -, hrules⟩ :=
    ofText_and_inspect_eq_of_hasOtherEnds hne hreturn hlast hends
  refine ⟨hne, hreturn, hlast, hends, ?_, ?_⟩
  · rw [hexcerpt]
    decide
  · obtain ⟨rule, hbuild⟩ : ∃ rule, RuleEntry.nativeIndentation.build none = .ok rule := ⟨_, rfl⟩
    have hs := source_textDisk twoVariables (twoVariablesTree 9 15)
    have hparses : Source.parses ⟨"a.c", twoVariables, twoVariablesTree 9 15⟩ = true := rfl
    obtain ⟨vs, hvs, hvs'⟩ := hrules _ none rule rfl hbuild _ _ "a.c" _ _ hs
      (source_textDisk twoVariablesClosed (twoVariablesTree 10 18)) hparses rfl
    have hcheck := RuleEntry.check_eq_ok_of_build_eq_ok rfl hbuild
    rw [← Except.ok.inj hcheck, Check.ofSource_eq hs hparses] at hvs
    refine ⟨rule, hbuild, hvs'.trans (hvs.symm.trans ?_)⟩
    decide

end Variables

end CodeStyle

import CodeStyle.Proofs.Analysis.Rules
import CodeStyle.Proofs.Rule.Naming
import CodeStyle.Proofs.SyntaxTree.Tokens

/-!
# Names of final variables

Without a configuration the name of a constant starts with a capital letter, and that of a field or
a local variable with a small one. A final field is both a constant and a field, a final local
variable both a constant and a variable. So whatever its name is, one of the rules reports it.
-/
namespace CodeStyle

namespace SyntaxTree

/-- Whether a node is a declaration with the modifier `final` that declares a name. The modifiers of
a declaration stand in one node, and a declarator has one name. -/
structure DeclaresFinal (t name : SyntaxTree) : Prop where
  isModified : ∃ m ∈ t.namedChildren, m.kind = "modifiers" ∧
    (∀ m' ∈ t.namedChildren, m'.kind = "modifiers" → m' = m) ∧ ∃ c ∈ m.children, c.kind = "final"
  isDeclared : ∃ d ∈ t.children, d.inField "declarator" = true ∧
    name ∈ d.children ∧ name.inField "name" = true ∧
    ∀ other ∈ d.children, other.inField "name" = true → other = name

variable {t name : SyntaxTree}

theorem DeclaresFinal.isFinal (h : DeclaresFinal t name) : t.isFinal = true := by
  obtain ⟨m, hm, hkind, hunique, c, hc, hfinal⟩ := h.isModified
  have hfirst : t.firstChild? ["modifiers"] = some m :=
    find?_eq_some_of_unique hm (by simp [hkind]) fun m' hm' hkind' =>
      hunique m' hm' (by simpa using hkind')
  rw [SyntaxTree.isFinal, hfirst]
  exact List.any_eq_true.mpr ⟨c, hc, beq_iff_eq.mpr hfinal⟩

theorem DeclaresFinal.mem_declaredNames (h : DeclaresFinal t name) : name ∈ t.declaredNames := by
  obtain ⟨d, hd, hfield, hname, hinField, hunique⟩ := h.isDeclared
  exact List.mem_filterMap.mpr ⟨d, List.mem_filter.mpr ⟨hd, hfield⟩,
    find?_eq_some_of_unique hname hinField hunique⟩

end SyntaxTree

section Checks

variable {disk : Disk} {path : String} {s : Source} {t n : SyntaxTree}

/-- The rules of a run without a configuration are those that are registered. -/
theorem Registry.exists_mem_java {d : Config.Document} {set : Config.RuleSet} {e : RuleEntry}
    (hd : d.entries = []) (hset : Config.resolve Registry.all d = .ok set) (he : e ∈ Registry.all)
    (hlanguage : e.language = .java) :
    ∃ check, e.criterion.check .java = .ok check ∧ ⟨e.name, .java, true, check⟩ ∈ set.java := by
  obtain ⟨check, hcheck, hbuild⟩ := Registry.exists_build_none_eq_ok he
  have hblock : d.get? e.key = none := by simp [Config.Document.get?, hd]
  rw [hlanguage] at hcheck hbuild
  exact ⟨check, hcheck, (Config.mem_forLanguage_iff hset).mpr
    ⟨e, he, hblock.symm ▸ hbuild, hlanguage, rfl⟩⟩

/-- A rule of Java about names, with the pattern that holds without a configuration. -/
structure NameRule where
  name : String
  subject : NameSubject
  pattern : String

namespace NameRule

def constant : NameRule := ⟨"ConstNameJavaRule", .constant, "[A-Z][A-Z_]*"⟩

def field : NameRule := ⟨"FieldPatternJavaRule", .field, "^[a-z][a-zA-Z0-9]*$"⟩

def localVariable : NameRule := ⟨"VariableNameJavaRule", .localVariable, "[a-z][a-zA-Z0-9]*"⟩

def entry (r : NameRule) : RuleEntry := ⟨r.name, .java, .naming r.subject "pattern" r.pattern⟩

theorem entry_mem_all : ∀ r ∈ [constant, field, localVariable], r.entry ∈ Registry.all := by
  decide +kernel

/-- Whether a rule of a run reports a name that a declaration gives. -/
def Reports (r : NameRule) (set : Config.RuleSet) (disk : Disk) (s : Source) (t n : SyntaxTree) :
    Prop :=
  ∃ rule ∈ set.java, rule.name = r.name ∧ ∃ vs, rule.check disk s.path = .ok vs ∧
    ⟨s.path, s.line (if r.subject.reportsName then n else t),
      r.subject.message (s.stringOf n) r.pattern⟩ ∈ vs

variable {d : Config.Document} {set : Config.RuleSet}

/-- Without a configuration a rule reports the names that its pattern does not accept. -/
theorem exists_reports_of_mem_names {r : NameRule} (hr : r.entry ∈ Registry.all)
    (hd : d.entries = []) (hset : Config.resolve Registry.all d = .ok set)
    (hs : disk.source path = .ok s) (hparses : s.parses = true) (ht : t ∈ s.tree.preorder)
    (hkind : t.kind ∈ r.subject.kinds) (hn : n ∈ r.subject.names t) :
    ∃ p, NamePattern.read r.pattern = .ok p ∧
      (p.accepts (s.stringOf n) = false → r.Reports set disk s t n) := by
  obtain rfl : s.path = path := (Disk.find_of_source_eq_ok hs).1
  obtain ⟨check, hcheck, hrule⟩ := Registry.exists_mem_java hd hset hr rfl
  obtain ⟨p, vs, hp, hvs, hmem⟩ := Criterion.mem_check_naming_iff hcheck hs hparses
  have huse : ⟨if r.subject.reportsName then n else t, n⟩ ∈ r.subject.uses t := by
    rw [NameSubject.uses, if_pos (List.contains_iff_mem.mpr hkind)]
    exact List.mem_map.mpr ⟨n, hn, rfl⟩
  exact ⟨p, hp, fun hrefused => ⟨_, hrule, rfl, vs, hvs, (hmem _).mpr ⟨t, ht, _, huse, hrefused, rfl⟩⟩⟩

/-- What a rule for capital letters accepts, a rule for small letters reports. -/
theorem reports_or_reports {r r' : NameRule} (hr : r.entry ∈ Registry.all)
    (hr' : r'.entry ∈ Registry.all) (hcapital : NamePattern.opensIn 'A' 'Z' r.pattern = true)
    (hsmall : NamePattern.opensIn 'a' 'z' r'.pattern = true) (hd : d.entries = [])
    (hset : Config.resolve Registry.all d = .ok set) (hs : disk.source path = .ok s)
    (hparses : s.parses = true) (ht : t ∈ s.tree.preorder) (hkind : t.kind ∈ r.subject.kinds)
    (hkind' : t.kind ∈ r'.subject.kinds) (hn : n ∈ r.subject.names t)
    (hn' : n ∈ r'.subject.names t) :
    r.Reports set disk s t n ∨ r'.Reports set disk s t n := by
  obtain ⟨p, hp, hreports⟩ := exists_reports_of_mem_names hr hd hset hs hparses ht hkind hn
  obtain ⟨p', hp', hreports'⟩ := exists_reports_of_mem_names hr' hd hset hs hparses ht hkind' hn'
  by_cases haccepts : p.accepts (s.stringOf n) = true
  · exact .inr (hreports'
      (NamePattern.accepts_eq_false_of_accepts hp hcapital hp' hsmall haccepts))
  · exact .inl (hreports (by simpa using haccepts))

/-- Without a configuration every name of a final field or a final local variable is reported,
wherever in a file that parses it is declared. -/
theorem exists_reports_of_declaresFinal (hd : d.entries = []) (hs : disk.source path = .ok s)
    (hparses : s.parses = true) (htokens : s.tree.hasLeafTokens = true)
    (ht : s.tree.IsNodeOf t) (hnamed : t.info.isNamed = true)
    (hkind : t.kind = "field_declaration" ∨ t.kind = "local_variable_declaration")
    (hfinal : t.DeclaresFinal n) :
    ∃ set, Config.resolve Registry.all d = .ok set ∧
      ∃ r ∈ [constant, field, localVariable], r.Reports set disk s t n := by
  obtain ⟨set, hset⟩ := Registry.exists_resolve_eq_ok
  have hset : Config.resolve Registry.all d = .ok set := by
    rw [← hset]
    exact Config.resolve_congr fun e _ => by simp [Config.Document.get?, hd]
  refine ⟨set, hset, ?_⟩
  have hmem := SyntaxTree.mem_preorder_of_isNodeOf htokens ht hnamed
  have hnames := hfinal.mem_declaredNames
  have hconstant : n ∈ NameSubject.constant.names t := by
    rwa [NameSubject.names, if_pos hfinal.isFinal]
  obtain ⟨hfirst, hsecond, hthird⟩ : constant.entry ∈ Registry.all ∧
      field.entry ∈ Registry.all ∧ localVariable.entry ∈ Registry.all := by
    simpa using entry_mem_all
  rcases hkind with hkind | hkind
  · have hreports := reports_or_reports hfirst hsecond NamePattern.opensIn_constant
      NamePattern.opensIn_field hd hset hs hparses hmem (by simp [constant, NameSubject.kinds, hkind])
      (by simp [field, NameSubject.kinds, hkind]) hconstant hnames
    rcases hreports with h | h
    · exact ⟨constant, by simp, h⟩
    · exact ⟨field, by simp, h⟩
  · have hreports := reports_or_reports hfirst hthird NamePattern.opensIn_constant
      NamePattern.opensIn_localVariable hd hset hs hparses hmem
      (by simp [constant, NameSubject.kinds, hkind])
      (by simp [localVariable, NameSubject.kinds, hkind]) hconstant hnames
    rcases hreports with h | h
    · exact ⟨constant, by simp, h⟩
    · exact ⟨localVariable, by simp, h⟩

end NameRule

end Checks

section Lambda

def lambdaName : SyntaxTree := .named "identifier" (some "name") 53 56 []

def lambdaDeclaration : SyntaxTree :=
  .named "local_variable_declaration" none 43 61 [
    .named "modifiers" none 43 48 [.token "final" 43],
    .named "integral_type" (some "type") 49 52 [.token "int" 49],
    .named "variable_declarator" (some "declarator") 53 60 [
      lambdaName,
      .token "=" 57,
      .named "decimal_integer_literal" (some "value") 59 60 []],
    .token ";" 60]

def lambdaSource : Source where
  path := "A.java"
  text := ("class A \x7b\n    Runnable r = () -> \x7b\n        final int one = 1;\n    \x7d;\n" ++
    "\x7d\n").toList
  tree := .named "program" none 0 71 [
    .named "class_declaration" none 0 70 [
      .token "class" 0,
      .named "identifier" (some "name") 6 7 [],
      .named "class_body" (some "body") 8 70 [
        .token "\x7b" 8,
        .named "field_declaration" none 14 68 [
          .named "type_identifier" (some "type") 14 22 [],
          .named "variable_declarator" (some "declarator") 23 67 [
            .named "identifier" (some "name") 23 24 [],
            .token "=" 25,
            .named "lambda_expression" (some "value") 27 67 [
              .named "formal_parameters" (some "parameters") 27 29 [.token "(" 27, .token ")" 28],
              .token "->" 30,
              .named "block" (some "body") 33 67 [
                .token "\x7b" 33,
                lambdaDeclaration,
                .token "\x7d" 66]]],
          .token ";" 67],
        .token "\x7d" 69]]]

def lambdaDisk : Disk := ⟨[.file "A.java" (.text lambdaSource.text lambdaSource.tree)]⟩

theorem source_lambdaDisk : lambdaDisk.source "A.java" = .ok lambdaSource :=
  Disk.source_eq_ok_of_singleton (by decide) (by decide) _ _

theorem mem_preorder_lambdaDeclaration : lambdaDeclaration ∈ lambdaSource.tree.preorder :=
  List.mem_of_getElem? (i := 11) rfl

theorem declaresFinal_lambdaDeclaration : lambdaDeclaration.DeclaresFinal lambdaName where
  isModified := by
    simp [lambdaDeclaration, SyntaxTree.namedChildren, SyntaxTree.named, SyntaxTree.token,
      SyntaxTree.kind]
  isDeclared := by
    simp [lambdaDeclaration, lambdaName, SyntaxTree.inField, SyntaxTree.named, SyntaxTree.token]

/-- The name of a final variable is reported in a lambda expression that a field holds. -/
theorem exists_reports_lambdaName :
    lambdaDisk.source "A.java" = .ok lambdaSource ∧ lambdaSource.parses = true ∧
      lambdaSource.tree.hasLeafTokens = true ∧ lambdaSource.tree.IsNodeOf lambdaDeclaration ∧
      lambdaDeclaration.DeclaresFinal lambdaName ∧
      ∃ set, Config.resolve Registry.all { } = .ok set ∧
        ∃ r ∈ [NameRule.constant, NameRule.field, NameRule.localVariable],
          r.Reports set lambdaDisk lambdaSource lambdaDeclaration lambdaName := by
  have hnode := SyntaxTree.isNodeOf_of_mem_preorder mem_preorder_lambdaDeclaration
  exact ⟨source_lambdaDisk, rfl, rfl, hnode, declaresFinal_lambdaDeclaration,
    NameRule.exists_reports_of_declaresFinal rfl source_lambdaDisk rfl rfl hnode rfl (.inr rfl)
      declaresFinal_lambdaDeclaration⟩

end Lambda

end CodeStyle

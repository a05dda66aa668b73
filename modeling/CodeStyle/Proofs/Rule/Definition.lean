import CodeStyle.Proofs.Rule.Check
import CodeStyle.Proofs.SyntaxTree.Nesting
import CodeStyle.Proofs.SyntaxTree.Tokens

/-!
# Parameters of definitions

The definition of a function of C is reported if it has too many parameters. They are counted in the
list of the outermost function of its declarator. This is the list of the defined function itself
unless that function returns a pointer to another one, whose list then stands outside.
-/
namespace CodeStyle

open SyntaxTree

/-- What a rule about counts reports is what it finds at each node. -/
theorem Criterion.check_counting_eq {q : NodeQuantity} {key : String} {max : Nat}
    {language : Language} {check : Check} {disk : Disk} {path : String} {s : Source}
    (hcheck : (Criterion.counting q key max).check language = .ok check)
    (hs : disk.source path = .ok s) (hparses : s.parses = true) :
    check disk path = .ok (s.tree.preorder.flatMap (q.visit max s)) := by
  rw [← Except.ok.inj hcheck, Check.ofSource_eq hs hparses, walk_ok_eq]

namespace NodeQuantity

/-- The parameters in a list of C. -/
def declaredParameters (list : SyntaxTree) : List SyntaxTree :=
  list.namedChildren.filter fun c =>
    ["parameter_declaration", "variadic_parameter"].contains c.kind

/-- The entries of a list of C: parameters, or names that are declared behind the list. -/
def parameterEntries (list : SyntaxTree) : List SyntaxTree :=
  list.namedChildren.filter fun c =>
    ["parameter_declaration", "variadic_parameter", "identifier"].contains c.kind

/-- The number of parameters that some entries stand for: each for one, but a single word for no
parameters for none. -/
inductive IsNumberOf (s : Source) (entries : List SyntaxTree) : Nat → Prop
  | none {e : SyntaxTree} (hentries : entries = [e]) (hvoid : isVoid s e = true) :
      IsNumberOf s entries 0
  | each (hother : ∀ e, entries = [e] → isVoid s e = false) : IsNumberOf s entries entries.length

variable {s : Source} {t d n f list : SyntaxTree} {levels entries : List SyntaxTree} {max : Nat}

/-- Entries stand for one number. -/
theorem IsNumberOf.unique {i j : Nat} (hi : IsNumberOf s entries i) (hj : IsNumberOf s entries j) :
    i = j := by
  have hexcluded {e : SyntaxTree} (hentries : entries = [e]) (hvoid : isVoid s e = true)
      (hother : ∀ e, entries = [e] → isVoid s e = false) : False := by
    rw [hother e hentries] at hvoid
    contradiction
  cases hi with
  | none hentries hvoid =>
    cases hj with
    | none => rfl
    | each hother => exact (hexcluded hentries hvoid hother).elim
  | each hother =>
    cases hj with
    | none hentries hvoid => exact (hexcluded hentries hvoid hother).elim
    | each => rfl

theorem isNumberOf_countParameters (s : Source) (list : SyntaxTree) :
    IsNumberOf s (declaredParameters list) (countParameters s list) := by
  unfold countParameters
  split
  · rename_i e hentries
    cases hvoid : isVoid s e with
    | true => exact .none hentries hvoid
    | false =>
      have hone : (declaredParameters list).length = 1 := congrArg List.length hentries
      rw [if_neg Bool.false_ne_true, ← hone]
      refine .each ?_
      intro e' hentries'
      obtain rfl : e = e' := List.singleton_inj.mp (hentries.symm.trans hentries')
      exact hvoid
  · rename_i hother
    refine .each ?_
    intro e hentries
    exact absurd hentries (hother e)

/-- A list without the names of an old style has no entries but parameters. -/
theorem parameterEntries_eq (h : ∀ e ∈ parameterEntries list, e.kind ≠ "identifier") :
    parameterEntries list = declaredParameters list := by
  refine List.filter_congr ?_
  intro c hc
  have hname : c.kind ≠ "identifier" := by
    intro hkind
    have hentry : c ∈ parameterEntries list := by
      refine List.mem_filter.mpr ⟨hc, ?_⟩
      simp [hkind]
    exact h c hentry hkind
  simp [hname]

/-- The outermost function of a declarator is that of the definition, and the name in it is the one
that is declared. -/
theorem functionName?_of_isDeclaredThrough (hd : t.field? "declarator" = some d)
    (hn : n.IsDeclaredThrough levels d) (hf : levels.find? isFunctionLevel = some f)
    (hfield : (f.field? "declarator").isSome = true) :
    t.definedFunction? = some f ∧ t.functionName? = some n := by
  obtain ⟨hfunction, before, after, rfl, -⟩ := List.find?_eq_some_iff_append.mp hf
  have hmem : f ∈ before ++ f :: after := List.mem_append_right _ List.mem_cons_self
  have hdefined : t.definedFunction? = some f := by
    rw [definedFunction?, hd, Option.bind_some, hn.functionLevel?_eq ⟨f, hmem, hfunction⟩, hf]
  obtain ⟨c, hlevel, hc⟩ := hn.of_append
  have hinner : f.field? "declarator" = some c := by
    cases hlevel with
    | inField h => exact h
    | between hnone =>
      rw [hnone] at hfield
      contradiction
  refine ⟨hdefined, ?_⟩
  rw [functionName?, hdefined, Option.bind_some, hinner, Option.bind_some, hc.declaredName?_eq]

/-- A definition is reported under the name of its function if the outermost function of its
declarator has too many parameters. -/
theorem visit_functionParameters_eq (hkind : t.kind = "function_definition")
    (hd : t.field? "declarator" = some d) (hn : n.IsDeclaredThrough levels d)
    (hf : levels.find? isFunctionLevel = some f) (hfield : (f.field? "declarator").isSome = true)
    (hlist : f.field? "parameters" = some list) :
    functionParameters.count? s t = some (countParameters s list) ∧
      functionParameters.visit max s t = if countParameters s list ≤ max then [] else [⟨s.path,
        s.line t, functionParameters.message (s.stringOf n) (countParameters s list) max⟩] := by
  obtain ⟨hdefined, hname⟩ := functionName?_of_isDeclaredThrough hd hn hf hfield
  have hcount : functionParameters.count? s t = some (countParameters s list) := by
    rw [count?, hdefined, Option.bind_some, hlist, Option.map_some]
  have hnameOf : functionParameters.nameOf s t = s.stringOf n := by
    rw [nameOf, if_pos rfl, hname]
  have hvisited : functionParameters.kinds.contains t.kind = true := by
    rw [hkind]
    rfl
  refine ⟨hcount, ?_⟩
  rw [visit, if_pos hvisited, hcount, hnameOf]

end NodeQuantity

section Definitions

variable {key : String} {max : Nat} {check : Check} {disk : Disk} {path : String} {s : Source}
  {t d n : SyntaxTree} {levels : List SyntaxTree}

/-- A definition is reported under the name that its declarator declares, exactly if the list of the
outermost function of the declarator has more parameters than are allowed. If that function is the
innermost as well, and its list names no parameters that are declared behind it, then this is the
number of the parameters of the defined function. -/
theorem Criterion.check_and_visit_definition
    (hcheck : (Criterion.counting .functionParameters key max).check .native = .ok check)
    (hs : disk.source path = .ok s) (hparses : s.parses = true)
    (htokens : s.tree.hasLeafTokens = true) (ht : s.tree.IsNodeOf t)
    (hnamed : t.info.isNamed = true) (hkind : t.kind = "function_definition")
    (hd : t.field? "declarator" = some d) (hn : n.IsDeclaredThrough levels d)
    (hfunction : ∃ f ∈ levels, f.isFunctionLevel = true)
    (hparts : ∀ f ∈ levels, f.isFunctionLevel = true →
      (f.field? "declarator").isSome = true ∧ (f.field? "parameters").isSome = true) :
    t.functionName? = some n ∧ t ∈ s.tree.preorder ∧
    check disk path =
      .ok (s.tree.preorder.flatMap (NodeQuantity.functionParameters.visit max s)) ∧
    ∃ f list count, levels.find? isFunctionLevel = some f ∧ f.field? "parameters" = some list ∧
      NodeQuantity.functionParameters.count? s t = some count ∧
      NodeQuantity.IsNumberOf s (NodeQuantity.declaredParameters list) count ∧
      NodeQuantity.functionParameters.visit max s t = (if count ≤ max then [] else
        [⟨s.path, s.line t, NodeQuantity.functionParameters.message (s.stringOf n) count max⟩]) ∧
      ∀ inner own, innermostFunction? levels = some inner → inner.field? "parameters" = some own →
        inner = f → (∀ e ∈ NodeQuantity.parameterEntries own, e.kind ≠ "identifier") →
        NodeQuantity.IsNumberOf s (NodeQuantity.parameterEntries own) count := by
  obtain ⟨f, hf⟩ := Option.isSome_iff_exists.mp (List.find?_isSome.mpr hfunction)
  obtain ⟨hfield, hparameters⟩ := hparts f (List.mem_of_find?_eq_some hf) (List.find?_some hf)
  obtain ⟨list, hlist⟩ := Option.isSome_iff_exists.mp hparameters
  obtain ⟨-, hname⟩ := NodeQuantity.functionName?_of_isDeclaredThrough hd hn hf hfield
  obtain ⟨hcount, hvisit⟩ :=
    NodeQuantity.visit_functionParameters_eq hkind hd hn hf hfield hlist
  have hnumber := NodeQuantity.isNumberOf_countParameters s list
  refine ⟨hname, mem_preorder_of_isNodeOf htokens ht hnamed, check_counting_eq hcheck hs hparses, f,
    list, _, hf, hlist, hcount, hnumber, hvisit, ?_⟩
  intro inner own _ hown hsame hnames
  obtain rfl : list = own := by
    rw [hsame, hlist] at hown
    exact Option.some.inj hown
  rw [NodeQuantity.parameterEntries_eq hnames]
  exact hnumber

end Definitions

section Lists

/-- A body that starts at an offset and returns zero. -/
def zeroBody (start : Nat) : SyntaxTree :=
  .named "compound_statement" (some "body") start (start + 13) [
    .token "\x7b" start,
    .named "return_statement" none (start + 2) (start + 11) [
      .token "return" (start + 2),
      .named "number_literal" none (start + 9) (start + 10) [],
      .token ";" (start + 10)],
    .token "\x7d" (start + 12)]

/-- A parameter at an offset that is a number with a name of one letter. -/
def numberParameter (start : Nat) : SyntaxTree :=
  .named "parameter_declaration" none start (start + 5) [
    .named "primitive_type" (some "type") start (start + 3) [],
    .named "identifier" (some "declarator") (start + 4) (start + 5) []]

/-- A text with one definition. -/
def definitionSource (text : String) (definition : SyntaxTree) : Source where
  path := "l.c"
  text := text.toList
  tree := .named "translation_unit" none 0 text.utf8ByteSize [definition]

def definitionDisk (text : String) (definition : SyntaxTree) : Disk :=
  ⟨[.file "l.c" (.text text.toList (definitionSource text definition).tree)]⟩

theorem source_definitionDisk (text : String) (definition : SyntaxTree) :
    (definitionDisk text definition).source "l.c" = .ok (definitionSource text definition) :=
  Disk.source_eq_ok_of_singleton (by decide) (by decide) _ _

/-- The definition of a function that returns a pointer and takes more arguments than one. -/
def openText : String := "int *f(int a, ...) \x7b return 0; \x7d\n"

def openName : SyntaxTree := .named "identifier" (some "declarator") 5 6 []

def openList : SyntaxTree :=
  .named "parameter_list" (some "parameters") 6 18 [
    .token "(" 6, numberParameter 7, .token "," 12,
    .named "variadic_parameter" none 14 17 [.token "..." 14], .token ")" 17]

def openFunction : SyntaxTree :=
  .named "function_declarator" (some "declarator") 5 18 [openName, openList]

def openDeclarator : SyntaxTree :=
  .named "pointer_declarator" (some "declarator") 4 18 [.token "*" 4, openFunction]

def openDefinition : SyntaxTree :=
  .named "function_definition" none 0 32
    [.named "primitive_type" (some "type") 0 3 [], openDeclarator, zeroBody 19]

/-- The definition of a function with three parameters that returns a pointer to a function with
one. -/
def returnedText : String := "int (*f(int a, int b, int c))(int d) \x7b return 0; \x7d\n"

def returnedName : SyntaxTree := .named "identifier" (some "declarator") 6 7 []

def definedList : SyntaxTree :=
  .named "parameter_list" (some "parameters") 7 28 [
    .token "(" 7, numberParameter 8, .token "," 13, numberParameter 15, .token "," 20,
    numberParameter 22, .token ")" 27]

def definedLevel : SyntaxTree :=
  .named "function_declarator" (some "declarator") 6 28 [returnedName, definedList]

def returnedPointer : SyntaxTree :=
  .named "pointer_declarator" none 5 28 [.token "*" 5, definedLevel]

def returnedBrackets : SyntaxTree :=
  .named "parenthesized_declarator" (some "declarator") 4 29
    [.token "(" 4, returnedPointer, .token ")" 28]

def returnedLevel : SyntaxTree :=
  .named "function_declarator" (some "declarator") 4 36 [
    returnedBrackets,
    .named "parameter_list" (some "parameters") 29 36
      [.token "(" 29, numberParameter 30, .token ")" 35]]

def returnedDefinition : SyntaxTree :=
  .named "function_definition" none 0 50
    [.named "primitive_type" (some "type") 0 3 [], returnedLevel, zeroBody 37]

/-- The definition of a function whose two parameters are declared behind the list. -/
def listedText : String := "int f(a, b) int a; int b; \x7b return 0; \x7d\n"

def listedList : SyntaxTree :=
  .named "parameter_list" (some "parameters") 5 11 [
    .token "(" 5, .named "identifier" none 6 7 [], .token "," 7,
    .named "identifier" none 9 10 [], .token ")" 10]

def listedName : SyntaxTree := .named "identifier" (some "declarator") 4 5 []

def listedLevel : SyntaxTree :=
  .named "function_declarator" (some "declarator") 4 11 [listedName, listedList]

/-- The declaration of a parameter at an offset behind the list. -/
def listedParameter (start : Nat) : SyntaxTree :=
  .named "declaration" none start (start + 6) [
    .named "primitive_type" (some "type") start (start + 3) [],
    .named "identifier" (some "declarator") (start + 4) (start + 5) [], .token ";" (start + 5)]

def listedDefinition : SyntaxTree :=
  .named "function_definition" none 0 39 [
    .named "primitive_type" (some "type") 0 3 [], listedLevel, listedParameter 12,
    listedParameter 19, zeroBody 26]

theorem openName_isDeclaredThrough :
    openName.IsDeclaredThrough [openDeclarator, openFunction] openDeclarator := by
  have hpointer : openDeclarator.kind ∈ namingLevels := by decide
  have hfunction : openFunction.kind ∈ namingLevels := by decide
  exact .level hpointer (.inField rfl) (.level hfunction (.inField rfl) (.name rfl))

theorem returnedName_isDeclaredThrough :
    returnedName.IsDeclaredThrough [returnedLevel, returnedBrackets, returnedPointer, definedLevel]
      returnedLevel := by
  have hreturned : returnedLevel.kind ∈ namingLevels := by decide
  have hbrackets : returnedBrackets.kind ∈ namingLevels := by decide
  have hpointer : returnedPointer.kind ∈ namingLevels := by decide
  have hdefined : definedLevel.kind ∈ namingLevels := by decide
  have hinside : returnedBrackets.HoldsLevel returnedPointer :=
    .of_namedChildren_eq_singleton rfl rfl
  exact .level hreturned (.inField rfl) (.level hbrackets hinside
    (.level hpointer (.inField rfl) (.level hdefined (.inField rfl) (.name rfl))))

theorem listedName_isDeclaredThrough :
    listedName.IsDeclaredThrough [listedLevel] listedLevel := by
  have hfunction : listedLevel.kind ∈ namingLevels := by decide
  exact .level hfunction (.inField rfl) (.name rfl)

/-- A function with one parameter and more arguments has two parameters, which is too many if only
one is allowed. -/
theorem check_openDefinition : ∃ check,
    (Criterion.counting .functionParameters "maximumParameters" 1).check .native = .ok check ∧
      openName.IsDeclaredThrough [openDeclarator, openFunction] openDeclarator ∧
      openDefinition.functionName? = some openName ∧
      NodeQuantity.IsNumberOf (definitionSource openText openDefinition)
        (NodeQuantity.parameterEntries openList) 2 ∧
      check (definitionDisk openText openDefinition) "l.c" = .ok
        [⟨"l.c", 1, "Function 'f' has 2 parameters. More than the allowed maximum of 1"⟩] := by
  obtain ⟨check, hcheck⟩ : ∃ check, (Criterion.counting .functionParameters "maximumParameters"
    1).check .native = .ok check := ⟨_, rfl⟩
  have htokens : (definitionSource openText openDefinition).tree.hasLeafTokens = true := by decide
  have hfunction : ∃ f ∈ [openDeclarator, openFunction], f.isFunctionLevel = true :=
    ⟨openFunction, List.mem_cons_of_mem _ List.mem_cons_self, rfl⟩
  obtain ⟨hname, -, hfound, f, list, count, hf, hlist, hcount, -, -, hnumber⟩ :=
    Criterion.check_and_visit_definition hcheck (source_definitionDisk openText openDefinition) rfl
      htokens (.child .root List.mem_cons_self) rfl rfl rfl openName_isDeclaredThrough hfunction
      (by decide)
  obtain rfl : openFunction = f := Option.some.inj hf
  obtain rfl : 2 = count := by
    have htwo : NodeQuantity.functionParameters.count? (definitionSource openText openDefinition)
      openDefinition = some 2 := by decide +kernel
    exact Option.some.inj (htwo.symm.trans hcount)
  refine ⟨check, hcheck, openName_isDeclaredThrough, hname,
    hnumber openFunction openList rfl rfl rfl (by decide), ?_⟩
  rw [hfound]
  decide +kernel

/-- A function that returns a pointer to another function is held to the number of parameters of
that function, and one whose parameters are declared behind its list to none. Both have more
parameters than are allowed, and neither is reported. -/
theorem check_returnedDefinition_and_listedDefinition : ∃ check,
    (Criterion.counting .functionParameters "maximumParameters" 1).check .native = .ok check ∧
      (returnedName.IsDeclaredThrough
          [returnedLevel, returnedBrackets, returnedPointer, definedLevel] returnedLevel ∧
        innermostFunction? [returnedLevel, returnedBrackets, returnedPointer, definedLevel] =
          some definedLevel ∧
        NodeQuantity.IsNumberOf (definitionSource returnedText returnedDefinition)
          (NodeQuantity.parameterEntries definedList) 3 ∧
        NodeQuantity.functionParameters.count? (definitionSource returnedText returnedDefinition)
          returnedDefinition = some 1 ∧
        check (definitionDisk returnedText returnedDefinition) "l.c" = .ok []) ∧
      listedName.IsDeclaredThrough [listedLevel] listedLevel ∧
        NodeQuantity.IsNumberOf (definitionSource listedText listedDefinition)
          (NodeQuantity.parameterEntries listedList) 2 ∧
        NodeQuantity.functionParameters.count? (definitionSource listedText listedDefinition)
          listedDefinition = some 0 ∧
        check (definitionDisk listedText listedDefinition) "l.c" = .ok [] := by
  obtain ⟨check, hcheck⟩ : ∃ check, (Criterion.counting .functionParameters "maximumParameters"
    1).check .native = .ok check := ⟨_, rfl⟩
  refine ⟨check, hcheck, ⟨returnedName_isDeclaredThrough, rfl, ?_, ?_, ?_⟩,
    listedName_isDeclaredThrough, ?_, ?_, ?_⟩
  · exact .each fun e h => by cases h
  · decide +kernel
  · rw [Criterion.check_counting_eq hcheck (source_definitionDisk _ _) rfl]
    decide +kernel
  · exact .each fun e h => by cases h
  · decide +kernel
  · rw [Criterion.check_counting_eq hcheck (source_definitionDisk _ _) rfl]
    decide +kernel

end Lists

end CodeStyle

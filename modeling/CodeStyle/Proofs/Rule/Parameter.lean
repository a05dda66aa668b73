import CodeStyle.Proofs.Rule.Naming
import CodeStyle.Proofs.SyntaxTree.Levels

/-!
# Names of parameters

A declaration or a parameter of C gives the names that its declarators declare. A parameter without
a name gives none, unless it is an array that is sized by a name alone: that name is then held to the
pattern for variables.
-/
namespace CodeStyle

namespace NameSubject

variable {t d : SyntaxTree} {size : Option SyntaxTree} {p : NamePattern} {s : Source}

theorem names_nativeVariable_parameter (hkind : t.kind = "parameter_declaration") :
    nativeVariable.names t = ((t.field? "declarator").bind (·.declaredVariable?)).toList := by
  have hother : (t.kind == "declaration") = false := by simp [hkind]
  simp only [names, hother, Bool.false_eq_true, if_false, SyntaxTree.take_one_fields]
  cases t.field? "declarator" with
  | none => rfl
  | some d => cases h : d.declaredVariable? <;> simp [h]

/-- A parameter without a name gives the size of its innermost level if that is a name. -/
theorem names_nativeVariable_of_declaresNothing (hkind : t.kind = "parameter_declaration")
    (hd : t.field? "declarator" = some d) (hnothing : SyntaxTree.DeclaresNothing size d) :
    nativeVariable.names t = (size.filter (·.kind == "identifier")).toList := by
  rw [names_nativeVariable_parameter hkind, hd, Option.bind_some, hnothing.declaredVariable?_eq]

theorem visit_eq_nil_of_names_eq_nil {subject : NameSubject} (h : subject.names t = []) :
    subject.visit p s t = [] := by
  rw [visit, uses, h]
  split <;> rfl

/-- What is found in a declarator is the name that it declares. A declarator that declares nothing
holds no name either, unless its innermost level is an array that is sized by a name alone. So a
parameter without a name and without such an array is not reported. -/
theorem declaredVariable?_of_isDeclaredBy_and_visit (p : NamePattern) (s : Source) :
    (∀ t n : SyntaxTree, n.IsDeclaredBy t → t.declaredVariable? = some n ∨
      t.declaredVariable? = none ∧ ∃ f, t.functionLevel? = some f) ∧
    (∀ (t : SyntaxTree) (size : Option SyntaxTree), SyntaxTree.DeclaresNothing size t →
      ∀ m, t.declaredVariable? = some m ↔ size = some m ∧ m.kind = "identifier") ∧
    ∀ t : SyntaxTree, t.kind = "parameter_declaration" →
      (∀ d, t.field? "declarator" = some d → ∃ size, SyntaxTree.DeclaresNothing size d ∧
        ∀ e, size = some e → e.kind ≠ "identifier") →
      nativeVariable.visit p s t = [] := by
  refine ⟨fun t n h => h.declaredVariable?_eq_or, fun t size h m => ?_, fun t hkind h => ?_⟩
  · rw [h.declaredVariable?_eq, Option.filter_eq_some_iff, beq_iff_eq]
  · refine visit_eq_nil_of_names_eq_nil ?_
    cases hd : t.field? "declarator" with
    | none => rw [names_nativeVariable_parameter hkind, hd, Option.bind_none, Option.toList_none]
    | some d =>
      obtain ⟨size, hnothing, hsize⟩ := h d hd
      have hnone : size.filter (·.kind == "identifier") = none :=
        Option.filter_eq_none_iff.mpr fun e he => by simpa using hsize e he
      rw [names_nativeVariable_of_declaresNothing hkind hd hnothing, hnone, Option.toList_none]

end NameSubject

section Prototype

/-- The size of an array, as it stands in the prototype of a function. -/
def arraySize (kind : String) : SyntaxTree := .named kind (some "size") 11 14 []

/-- The declarator of a parameter without a name. -/
def namelessArray (kind : String) : SyntaxTree :=
  .named "abstract_array_declarator" (some "declarator") 10 15
    [.token "[" 10, arraySize kind, .token "]" 14]

def namelessParameter (kind : String) : SyntaxTree :=
  .named "parameter_declaration" none 6 15
    [.named "primitive_type" (some "type") 6 9 [], namelessArray kind]

def prototypeName : SyntaxTree := .named "identifier" (some "declarator") 4 5 []

def prototypeDeclarator (kind : String) : SyntaxTree :=
  .named "function_declarator" (some "declarator") 4 16 [
    prototypeName,
    .named "parameter_list" (some "parameters") 5 16
      [.token "(" 5, namelessParameter kind, .token ")" 15]]

/-- The prototype of a function whose only parameter has no name. The size of the array has three
characters. -/
def prototypeSource (kind size : String) : Source where
  path := "a.c"
  text := "int f(int [".toList ++ size.toList ++ "]);\n".toList
  tree := .named "translation_unit" none 0 18 [
    .named "declaration" none 0 17 [
      .named "primitive_type" (some "type") 0 3 [],
      prototypeDeclarator kind,
      .token ";" 16]]

def prototypeDisk (kind size : String) : Disk :=
  ⟨[.file "a.c" (.text (prototypeSource kind size).text (prototypeSource kind size).tree)]⟩

theorem source_prototypeDisk (kind size : String) :
    (prototypeDisk kind size).source "a.c" = .ok (prototypeSource kind size) :=
  Disk.source_eq_ok_of_singleton (by decide) (by decide) _ _

theorem declaresNothing_namelessArray {kind : String} (h : kind.endsWith "declarator" = false) :
    SyntaxTree.DeclaresNothing (some (arraySize kind)) (namelessArray kind) := by
  have hlevel : "abstract_array_declarator" ∈ SyntaxTree.namelessLevels := by decide
  refine .innermost hlevel rfl (fun c hc => ?_) fun e he => ?_
  · obtain rfl : c = arraySize kind := List.mem_singleton.mp hc
    exact .inl rfl
  · obtain rfl := Option.some.inj he
    exact ⟨rfl, rfl, rfl, h⟩

theorem prototypeName_isDeclaredBy (kind : String) :
    prototypeName.IsDeclaredBy (prototypeDeclarator kind) := by
  have hlevel : "function_declarator" ∈ SyntaxTree.namingLevels := by decide
  exact .level hlevel (.inField rfl) (.name rfl)

/-- A parameter that is an array with a number for its size is not reported. -/
theorem visit_namelessParameter_of_number : ∃ p,
    NamePattern.read "^[a-z][a-zA-Z0-9]*$" = .ok p ∧
      prototypeName.IsDeclaredBy (prototypeDeclarator "number_literal") ∧
      (prototypeDeclarator "number_literal").declaredVariable? = none ∧
      (∃ f, (prototypeDeclarator "number_literal").functionLevel? = some f) ∧
      NameSubject.nativeVariable.visit p (prototypeSource "number_literal" "128")
        (namelessParameter "number_literal") = [] := by
  obtain ⟨p, hp⟩ := NamePattern.exists_read_eq_ok_of_opensIn NamePattern.opensIn_field
  obtain ⟨hdeclared, -, hvisit⟩ := NameSubject.declaredVariable?_of_isDeclaredBy_and_visit p
    (prototypeSource "number_literal" "128")
  have hname := prototypeName_isDeclaredBy "number_literal"
  have hnone : (prototypeDeclarator "number_literal").declaredVariable? = none := by
    rw [SyntaxTree.declaredVariable?_eq, if_neg (by decide), if_pos (by decide)]
  refine ⟨p, hp, hname, hnone, ?_, hvisit _ rfl fun d hd => ?_⟩
  · rcases hdeclared _ _ hname with h | ⟨-, h⟩
    · rw [hnone] at h
      contradiction
    · exact h
  · obtain rfl := Option.some.inj hd
    refine ⟨_, declaresNothing_namelessArray (by decide +kernel), fun e he => ?_⟩
    obtain rfl := Option.some.inj he
    decide

/-- A parameter that is an array sized by a name is reported under the name of its size. -/
theorem exists_mem_check_of_name : ∃ check vs,
    (Criterion.naming .nativeVariable "pattern" "^[a-z][a-zA-Z0-9]*$").check .native = .ok check ∧
      (prototypeSource "identifier" "Max").parses = true ∧
      SyntaxTree.DeclaresNothing (some (arraySize "identifier")) (namelessArray "identifier") ∧
      (namelessArray "identifier").declaredVariable? = some (arraySize "identifier") ∧
      check (prototypeDisk "identifier" "Max") "a.c" = .ok vs ∧
      ⟨"a.c", 1, "Variable 'Max' does not follow Pattern: ^[a-z][a-zA-Z0-9]*$"⟩ ∈ vs := by
  have hnothing : SyntaxTree.DeclaresNothing (some (arraySize "identifier"))
      (namelessArray "identifier") := declaresNothing_namelessArray (by decide +kernel)
  obtain ⟨p, hp⟩ := NamePattern.exists_read_eq_ok_of_opensIn NamePattern.opensIn_field
  have hcheck : ∃ check, (Criterion.naming .nativeVariable "pattern" "^[a-z][a-zA-Z0-9]*$").check
      .native = .ok check := Except.exists_map_eq_ok_iff.mpr ⟨p, hp⟩
  obtain ⟨check, hcheck⟩ := hcheck
  obtain ⟨p, vs, hp, hvs, hmem⟩ := Criterion.mem_check_naming_iff hcheck
    (source_prototypeDisk "identifier" "Max") rfl
  have hparameter : namelessParameter "identifier" ∈
      (prototypeSource "identifier" "Max").tree.preorder := List.mem_of_getElem? (i := 6) rfl
  have hnames : NameSubject.nativeVariable.names (namelessParameter "identifier") =
      [arraySize "identifier"] :=
    NameSubject.names_nativeVariable_of_declaresNothing rfl rfl hnothing
  have huse : ⟨arraySize "identifier", arraySize "identifier"⟩ ∈
      NameSubject.nativeVariable.uses (namelessParameter "identifier") := by
    rw [NameSubject.uses, hnames]
    exact List.mem_singleton.mpr rfl
  have htext : (prototypeSource "identifier" "Max").stringOf (arraySize "identifier") = "Max" := by
    decide +kernel
  refine ⟨check, vs, hcheck, rfl, hnothing, hnothing.declaredVariable?_eq, hvs,
    (hmem _).mpr ⟨_, hparameter, _, huse, ?_, ?_⟩⟩
  · rw [htext]
    exact NamePattern.accepts_eq_false_of_head? hp NamePattern.opensIn_field rfl (by decide)
  · rw [htext]
    rfl

end Prototype

end CodeStyle

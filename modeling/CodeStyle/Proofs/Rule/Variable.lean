import CodeStyle.Proofs.Rule.Naming
import CodeStyle.Proofs.SyntaxTree.Nesting
import CodeStyle.Proofs.SyntaxTree.Tokens

/-!
# Names of variables

The rule about the names of variables in C asks every declarator of a declaration, and that of a
parameter, for the name that it declares. It holds this name to the pattern unless the declarator
has a level of a function. Such a level may belong to the type of what a variable points to.
-/
namespace CodeStyle

open SyntaxTree

namespace NameSubject

theorem message_injective (subject : NameSubject) (pattern : String) :
    Function.Injective fun name => subject.message name pattern := by
  intro a b h
  simp only [← String.toList_inj] at h ⊢
  delta message at h
  cases subject <;> simpa only [String.toList_append, List.append_cancel_left_eq,
    List.append_cancel_right_eq] using h

/-- The declarators whose names are held to the pattern for variables: all of a declaration, the
first of a parameter. -/
def declarators (t : SyntaxTree) : List SyntaxTree :=
  if t.kind == "declaration" then t.fields "declarator" else (t.field? "declarator").toList

variable {t d n : SyntaxTree}

theorem names_nativeVariable_eq (t : SyntaxTree) :
    nativeVariable.names t = (declarators t).filterMap (·.declaredVariable?) := by
  simp only [names, declarators, take_one_fields]

/-- What is found in a declarator is reported where it stands. -/
theorem mem_uses_of_declaredVariable? (hkind : t.kind ∈ nativeVariable.kinds)
    (hd : d ∈ declarators t) (hn : d.declaredVariable? = some n) :
    ⟨n, n⟩ ∈ nativeVariable.uses t := by
  have hname : n ∈ nativeVariable.names t := by
    rw [names_nativeVariable_eq]
    exact List.mem_filterMap.mpr ⟨d, hd, hn⟩
  rw [uses, if_pos (List.contains_iff_mem.mpr hkind)]
  exact List.mem_map.mpr ⟨n, hname, rfl⟩

end NameSubject

section Declarations

variable {key pattern : String} {check : Check} {disk : Disk} {path : String} {s : Source}
  {t d n : SyntaxTree} {levels : List SyntaxTree}

/-- A name that is found in a declarator is reported if the pattern does not accept it. -/
theorem Criterion.mem_check_of_declaredVariable?
    (hcheck : (Criterion.naming .nativeVariable key pattern).check .native = .ok check)
    (hs : disk.source path = .ok s) (hparses : s.parses = true) (ht : t ∈ s.tree.preorder)
    (hkind : t.kind ∈ NameSubject.nativeVariable.kinds) (hd : d ∈ NameSubject.declarators t)
    (hn : d.declaredVariable? = some n) :
    ∃ p vs, NamePattern.read pattern = .ok p ∧ check disk path = .ok vs ∧
      (⟨path, s.line n, NameSubject.nativeVariable.message (s.stringOf n) pattern⟩ ∈ vs ↔
        p.accepts (s.stringOf n) = false) := by
  obtain ⟨p, vs, hp, hvs, hmem⟩ := mem_check_naming_iff hcheck hs hparses
  refine ⟨p, vs, hp, hvs, (hmem _).trans ?_⟩
  constructor
  · intro h
    obtain ⟨-, -, u, -, haccepts, hsame⟩ := h
    have hname : s.stringOf n = s.stringOf u.name :=
      NameSubject.message_injective _ pattern (Violation.mk.inj hsame).2.2
    rw [hname]
    exact haccepts
  · intro haccepts
    exact ⟨t, ht, ⟨n, n⟩, NameSubject.mem_uses_of_declaredVariable? hkind hd hn, haccepts, rfl⟩

/-- No name is found in a declarator exactly if one of its levels is that of a function. This holds
of every declarator of a function. Where there is no such level the name is found, and it is
reported exactly if the pattern does not accept it. -/
theorem Criterion.declaredVariable?_of_isDeclaredThrough_and_mem_check
    (hcheck : (Criterion.naming .nativeVariable key pattern).check .native = .ok check)
    (hs : disk.source path = .ok s) (hparses : s.parses = true)
    (htokens : s.tree.hasLeafTokens = true) (ht : s.tree.IsNodeOf t)
    (hnamed : t.info.isNamed = true) (hkind : t.kind ∈ NameSubject.nativeVariable.kinds)
    (hd : d ∈ NameSubject.declarators t) (hn : n.IsDeclaredThrough levels d) :
    (d.declaredVariable? = none ↔ ∃ f ∈ levels, f.isFunctionLevel = true) ∧
    (declareFunction levels = true → d.declaredVariable? = none) ∧
    ((∀ f ∈ levels, f.isFunctionLevel = false) → d.declaredVariable? = some n ∧
      ∃ p vs, NamePattern.read pattern = .ok p ∧ check disk path = .ok vs ∧
        (⟨path, s.line n, NameSubject.nativeVariable.message (s.stringOf n) pattern⟩ ∈ vs ↔
          p.accepts (s.stringOf n) = false)) := by
  have hnone := hn.declaredVariable?_eq_none_iff
  refine ⟨hnone, ?_, ?_⟩
  · intro hfunction
    exact hnone.mpr (exists_isFunctionLevel_of_declareFunction hfunction)
  · intro hother
    have hany : levels.any isFunctionLevel = false := by
      rw [List.any_eq_false]
      intro f hf
      rw [hother f hf]
      exact Bool.false_ne_true
    have hfound : d.declaredVariable? = some n := by
      rw [hn.declaredVariable?_eq, hany, if_neg Bool.false_ne_true]
    have hvisited : t ∈ s.tree.preorder := mem_preorder_of_isNodeOf htokens ht hnamed
    exact ⟨hfound, mem_check_of_declaredVariable? hcheck hs hparses hvisited hkind hd hfound⟩

end Declarations

section Pointers

def pointerName : SyntaxTree := .named "identifier" (some "declarator") 6 8 []

def pointerLevel : SyntaxTree :=
  .named "pointer_declarator" none 5 8 [.token "*" 5, pointerName]

def pointerBrackets : SyntaxTree :=
  .named "parenthesized_declarator" (some "declarator") 4 9
    [.token "(" 4, pointerLevel, .token ")" 8]

def pointedFunction : SyntaxTree :=
  .named "function_declarator" (some "declarator") 4 14 [
    pointerBrackets,
    .named "parameter_list" (some "parameters") 9 14 [
      .token "(" 9,
      .named "parameter_declaration" none 10 13 [.named "primitive_type" (some "type") 10 13 []],
      .token ")" 13]]

def pointerDeclaration : SyntaxTree :=
  .named "declaration" none 0 15
    [.named "primitive_type" (some "type") 0 3 [], pointedFunction, .token ";" 14]

def tableName : SyntaxTree := .named "identifier" (some "declarator") 23 26 []

def tablePointer : SyntaxTree :=
  .named "pointer_declarator" none 22 26 [.token "*" 22, tableName]

def tableBrackets : SyntaxTree :=
  .named "parenthesized_declarator" (some "declarator") 21 27
    [.token "(" 21, tablePointer, .token ")" 26]

def tableArray : SyntaxTree :=
  .named "array_declarator" (some "declarator") 21 30
    [tableBrackets, .token "[" 27, .named "number_literal" (some "size") 28 29 [], .token "]" 29]

def tableDeclarator : SyntaxTree :=
  .named "pointer_declarator" (some "declarator") 20 30 [.token "*" 20, tableArray]

def tableDeclaration : SyntaxTree :=
  .named "declaration" none 16 31
    [.named "primitive_type" (some "type") 16 19 [], tableDeclarator, .token ";" 30]

/-- A text with both declarations. -/
def pointerSource : Source where
  path := "a.c"
  text := "int (*Fp)(int);\nint *(*Tab)[3];\n".toList
  tree := .named "translation_unit" none 0 32 [pointerDeclaration, tableDeclaration]

def pointerDisk : Disk := ⟨[.file "a.c" (.text pointerSource.text pointerSource.tree)]⟩

theorem source_pointerDisk : pointerDisk.source "a.c" = .ok pointerSource :=
  Disk.source_eq_ok_of_singleton (by decide) (by decide) _ _

theorem pointerName_isDeclaredThrough :
    pointerName.IsDeclaredThrough [pointedFunction, pointerBrackets, pointerLevel]
      pointedFunction := by
  have hfunction : pointedFunction.kind ∈ namingLevels := by decide
  have hbrackets : pointerBrackets.kind ∈ namingLevels := by decide
  have hpointer : pointerLevel.kind ∈ namingLevels := by decide
  have hinside : pointerBrackets.HoldsLevel pointerLevel :=
    .of_namedChildren_eq_singleton rfl rfl
  exact .level hfunction (.inField rfl)
    (.level hbrackets hinside (.level hpointer (.inField rfl) (.name rfl)))

theorem tableName_isDeclaredThrough :
    tableName.IsDeclaredThrough [tableDeclarator, tableArray, tableBrackets, tablePointer]
      tableDeclarator := by
  have hpointers : tableDeclarator.kind ∈ namingLevels := by decide
  have harray : tableArray.kind ∈ namingLevels := by decide
  have hbrackets : tableBrackets.kind ∈ namingLevels := by decide
  have hpointer : tablePointer.kind ∈ namingLevels := by decide
  have hinside : tableBrackets.HoldsLevel tablePointer :=
    .of_namedChildren_eq_singleton rfl rfl
  exact .level hpointers (.inField rfl) (.level harray (.inField rfl)
    (.level hbrackets hinside (.level hpointer (.inField rfl) (.name rfl))))

theorem exists_check_nativeVariable : ∃ check,
    (Criterion.naming .nativeVariable "pattern" "^[a-z][a-zA-Z0-9]*$").check .native =
      .ok check := by
  obtain ⟨p, hp⟩ := NamePattern.exists_read_eq_ok_of_opensIn NamePattern.opensIn_field
  exact Except.exists_map_eq_ok_iff.mpr ⟨p, hp⟩

/-- A variable that points to an array of pointers is reported if its name starts with a capital
letter. -/
theorem exists_mem_check_table : ∃ check vs,
    (Criterion.naming .nativeVariable "pattern" "^[a-z][a-zA-Z0-9]*$").check .native = .ok check ∧
      pointerSource.parses = true ∧ pointerSource.tree.hasLeafTokens = true ∧
      tableName.IsDeclaredThrough [tableDeclarator, tableArray, tableBrackets, tablePointer]
        tableDeclarator ∧
      declareFunction [tableDeclarator, tableArray, tableBrackets, tablePointer] = false ∧
      tableDeclarator.declaredVariable? = some tableName ∧
      check pointerDisk "a.c" = .ok vs ∧
      ⟨"a.c", 2, "Variable 'Tab' does not follow Pattern: ^[a-z][a-zA-Z0-9]*$"⟩ ∈ vs := by
  obtain ⟨check, hcheck⟩ := exists_check_nativeVariable
  have htokens : pointerSource.tree.hasLeafTokens = true := by decide
  have hchild : tableDeclaration ∈ pointerSource.tree.children :=
    List.mem_cons_of_mem _ List.mem_cons_self
  have hd : tableDeclarator ∈ NameSubject.declarators tableDeclaration := List.mem_singleton.mpr rfl
  obtain ⟨-, -, hvariable⟩ := Criterion.declaredVariable?_of_isDeclaredThrough_and_mem_check hcheck
    source_pointerDisk rfl htokens (.child .root hchild) rfl (by decide) hd
    tableName_isDeclaredThrough
  have hother : ∀ f ∈ [tableDeclarator, tableArray, tableBrackets, tablePointer],
      f.isFunctionLevel = false := by decide
  obtain ⟨hfound, p, vs, hp, hvs, hmem⟩ := hvariable hother
  have htext : pointerSource.stringOf tableName = "Tab" := by decide +kernel
  have hline : pointerSource.line tableName = 2 := by decide +kernel
  have hrefused : p.accepts "Tab" = false :=
    NamePattern.accepts_eq_false_of_head? hp NamePattern.opensIn_field rfl (by decide)
  rw [htext, hline] at hmem
  exact ⟨check, vs, hcheck, rfl, htokens, tableName_isDeclaredThrough, by decide, hfound, hvs,
    hmem.mpr hrefused⟩

/-- A variable that points to a function is no function, and yet its name is not found and not
reported, though the pattern does not accept it. -/
theorem exists_not_mem_check_pointer : ∃ check vs p,
    (Criterion.naming .nativeVariable "pattern" "^[a-z][a-zA-Z0-9]*$").check .native = .ok check ∧
      pointerSource.parses = true ∧ pointerDeclaration ∈ pointerSource.tree.preorder ∧
      pointedFunction ∈ NameSubject.declarators pointerDeclaration ∧
      pointerName.IsDeclaredThrough [pointedFunction, pointerBrackets, pointerLevel]
        pointedFunction ∧
      declareFunction [pointedFunction, pointerBrackets, pointerLevel] = false ∧
      pointedFunction.declaredVariable? = none ∧
      NamePattern.read "^[a-z][a-zA-Z0-9]*$" = .ok p ∧ p.accepts "Fp" = false ∧
      check pointerDisk "a.c" = .ok vs ∧
      ⟨"a.c", 1, "Variable 'Fp' does not follow Pattern: ^[a-z][a-zA-Z0-9]*$"⟩ ∉ vs := by
  obtain ⟨check, hcheck⟩ := exists_check_nativeVariable
  obtain ⟨p, vs, hp, hvs, hmem⟩ := Criterion.mem_check_naming_iff hcheck source_pointerDisk rfl
  have hvisited : pointerDeclaration ∈ pointerSource.tree.preorder :=
    mem_preorder_of_mem_namedChildren (self_mem_preorder _) List.mem_cons_self
  have hd : pointedFunction ∈ NameSubject.declarators pointerDeclaration :=
    List.mem_singleton.mpr rfl
  have hnone : pointedFunction.declaredVariable? = none :=
    pointerName_isDeclaredThrough.declaredVariable?_eq_none_iff.mpr
      ⟨pointedFunction, List.mem_cons_self, rfl⟩
  have hrefused : p.accepts "Fp" = false :=
    NamePattern.accepts_eq_false_of_head? hp NamePattern.opensIn_field rfl (by decide)
  refine ⟨check, vs, p, hcheck, rfl, hvisited, hd, pointerName_isDeclaredThrough, by decide, hnone,
    hp, hrefused, hvs, ?_⟩
  intro hv
  obtain ⟨t, ht, u, hu, -, hsame⟩ := (hmem _).mp hv
  have hwording : NameSubject.nativeVariable.message "Fp" "^[a-z][a-zA-Z0-9]*$" =
      "Variable 'Fp' does not follow Pattern: ^[a-z][a-zA-Z0-9]*$" := by decide +kernel
  have hname : "Fp" = pointerSource.stringOf u.name :=
    NameSubject.message_injective .nativeVariable _
      (hwording.trans (Violation.mk.inj hsame).2.2)
  -- The only name that is held to the pattern in this text is that of the other variable.
  have hall : ∀ t ∈ pointerSource.tree.preorder, ∀ u ∈ NameSubject.nativeVariable.uses t,
      pointerSource.stringOf u.name ≠ "Fp" := by decide +kernel
  exact hall t ht u hu hname.symm

end Pointers

end CodeStyle

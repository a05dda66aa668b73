import CodeStyle.Proofs.SyntaxTree.Levels

/-!
# Levels around a name

A declarator of C is read from its name outwards: the innermost level that does more than group says
what is declared, those around it say more about its type. A search from the outside meets the
levels in the opposite order, so the first function that it meets may be one that is only pointed to
or returned.
-/
namespace CodeStyle.SyntaxTree

/-- Whether a name is the one that a declarator declares, with the levels that lead to it from the
outermost inwards. -/
inductive IsDeclaredThrough (name : SyntaxTree) : List SyntaxTree → SyntaxTree → Prop
  | name (hkind : name.kind = "identifier") : IsDeclaredThrough name [] name
  | level {t c : SyntaxTree} {levels : List SyntaxTree} (hkind : t.kind ∈ namingLevels)
      (hlevel : t.HoldsLevel c) (h : IsDeclaredThrough name levels c) :
      IsDeclaredThrough name (t :: levels) t

/-- Whether a level is that of a function. -/
def isFunctionLevel (t : SyntaxTree) : Bool := t.kind == "function_declarator"

/-- The innermost function among some levels. -/
def innermostFunction? (levels : List SyntaxTree) : Option SyntaxTree :=
  (levels.filter isFunctionLevel).getLast?

/-- The kinds of levels that only group what is inside. -/
def groupingLevels : List String := ["parenthesized_declarator", "attributed_declarator"]

/-- The innermost of some levels that does more than group. -/
def innermostLevel? (levels : List SyntaxTree) : Option SyntaxTree :=
  (levels.filter fun t => !groupingLevels.contains t.kind).getLast?

/-- Whether a name with such levels around it is that of a function. -/
def declareFunction (levels : List SyntaxTree) : Bool :=
  (innermostLevel? levels).any isFunctionLevel

variable {t f name : SyntaxTree} {levels before after : List SyntaxTree}

/-- A level holds its only named child. -/
theorem HoldsLevel.of_namedChildren_eq_singleton (hfield : t.field? "declarator" = none)
    (hnamed : t.namedChildren = [f]) : t.HoldsLevel f := by
  have hnone : ∀ x ∈ ([] : List SyntaxTree), x.kind ∈ ["ms_call_modifier", "comment"] := by
    intro x hx
    exact absurd hx List.not_mem_nil
  exact .between hfield hnamed hnone

/-- A name that a declarator declares is declared through some levels. -/
theorem isDeclaredBy_iff_exists_levels :
    IsDeclaredBy name t ↔ ∃ levels, IsDeclaredThrough name levels t := by
  constructor
  · intro h
    induction h with
    | name hkind => exact ⟨[], .name hkind⟩
    | level hkind hlevel _ ih =>
      obtain ⟨levels, hlevels⟩ := ih
      exact ⟨_, .level hkind hlevel hlevels⟩
  · intro h
    obtain ⟨levels, h⟩ := h
    induction h with
    | name hkind => exact .name hkind
    | level hkind hlevel _ ih => exact .level hkind hlevel ih

namespace IsDeclaredThrough

theorem kind_eq (h : IsDeclaredThrough name levels t) : name.kind = "identifier" := by
  induction h with
  | name hkind => exact hkind
  | level _ _ _ ih => exact ih

theorem kind_ne_of_mem (h : IsDeclaredThrough name levels t) (hf : f ∈ levels) :
    f.kind ≠ "identifier" := by
  induction h with
  | name => exact absurd hf List.not_mem_nil
  | level hkind _ _ ih =>
    rcases List.mem_cons.mp hf with rfl | hf
    · intro hname
      rw [hname] at hkind
      exact absurd hkind (by decide)
    · exact ih hf

/-- The chain of a declarator starts with the levels, and the name follows them. -/
theorem declaratorChain_eq (h : IsDeclaredThrough name levels t) :
    t.declaratorChain = levels ++ name.declaratorChain := by
  induction h with
  | name => rfl
  | @level t c levels hkind hlevel h ih =>
    have hnext := (isDeclaredBy_iff_exists_levels.mpr ⟨levels, h⟩).looksLikeLevel
    rw [SyntaxTree.declaratorChain_eq, hlevel.innerDeclarator?_eq hnext, Option.map_some,
      Option.getD_some, ih, List.cons_append]

/-- The levels behind one of them lead from it to the name. -/
theorem of_append (h : IsDeclaredThrough name (before ++ f :: after) t) :
    ∃ c, f.HoldsLevel c ∧ IsDeclaredThrough name after c := by
  induction before generalizing t with
  | nil =>
    cases h with
    | level _ hlevel h => exact ⟨_, hlevel, h⟩
  | cons b before ih =>
    cases h with
    | level _ _ h => exact ih h

theorem declaredName?_eq (h : IsDeclaredThrough name levels t) : t.declaredName? = some name := by
  have hlevels : levels.find? (·.kind == "identifier") = none := by
    rw [List.find?_eq_none]
    intro f hf
    simpa using h.kind_ne_of_mem hf
  rw [declaredName?, h.declaratorChain_eq, List.find?_append, hlevels, Option.none_or,
    SyntaxTree.declaratorChain_eq, List.find?_cons_of_pos (by simp [h.kind_eq])]

/-- The function that is found in a declarator is its outermost. -/
theorem functionLevel?_eq (h : IsDeclaredThrough name levels t)
    (hfunction : ∃ f ∈ levels, f.isFunctionLevel = true) :
    t.functionLevel? = levels.find? isFunctionLevel := by
  have hsome : (levels.find? isFunctionLevel).isSome = true := List.find?_isSome.mpr hfunction
  obtain ⟨f, hf⟩ := Option.isSome_iff_exists.mp hsome
  have hfirst : levels.find? (·.kind == "function_declarator") = some f := hf
  rw [functionLevel?, h.declaratorChain_eq, List.find?_append, hfirst, hf, Option.some_or]

/-- A declarator gives the name that it declares unless one of its levels is that of a function. -/
theorem declaredVariable?_eq (h : IsDeclaredThrough name levels t) :
    t.declaredVariable? = if levels.any isFunctionLevel then none else some name := by
  induction h with
  | name hkind => rw [SyntaxTree.declaredVariable?_eq, if_pos hkind, List.any_nil]; rfl
  | @level t c levels hkind hlevel h ih =>
    have hname : t.kind ≠ "identifier" := (level hkind hlevel h).kind_ne_of_mem List.mem_cons_self
    have hnext := (isDeclaredBy_iff_exists_levels.mpr ⟨levels, h⟩).looksLikeLevel
    rw [SyntaxTree.declaredVariable?_eq, if_neg hname, List.any_cons]
    by_cases hfunction : t.kind = "function_declarator"
    · have hlevel : t.isFunctionLevel = true := by simp [isFunctionLevel, hfunction]
      rw [if_pos hfunction, hlevel, Bool.true_or, if_pos rfl]
    · have hother : t.isFunctionLevel = false := by simp [isFunctionLevel, hfunction]
      rw [if_neg hfunction, hother, Bool.false_or, hlevel.innerDeclarator?_eq hnext,
        Option.bind_some, ih]

theorem declaredVariable?_eq_none_iff (h : IsDeclaredThrough name levels t) :
    t.declaredVariable? = none ↔ ∃ f ∈ levels, f.isFunctionLevel = true := by
  rw [h.declaredVariable?_eq, ← List.any_eq_true]
  cases levels.any isFunctionLevel <;> simp

end IsDeclaredThrough

/-- Where a name is that of a function, one of its levels is that of a function. -/
theorem exists_isFunctionLevel_of_declareFunction (h : declareFunction levels = true) :
    ∃ f ∈ levels, f.isFunctionLevel = true := by
  obtain ⟨f, hf, hfunction⟩ := (Option.any_eq_true _ _).mp h
  exact ⟨f, (List.mem_filter.mp (List.mem_of_getLast? hf)).1, hfunction⟩

end CodeStyle.SyntaxTree

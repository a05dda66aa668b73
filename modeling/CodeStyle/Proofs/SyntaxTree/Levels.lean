import CodeStyle.Proofs.SyntaxTree.Declarator

/-!
# Levels of declarators

A declarator of C holds its next level in a field, or between parentheses as one of its children. The
levels of one with a name lead to that name. Those of one without a name lead nowhere, unless the
innermost is an array that is sized by a name alone, which is then taken for the next level.
-/
namespace CodeStyle.SyntaxTree

/-- The kinds of levels around a name. -/
def namingLevels : List String := ["pointer_declarator", "array_declarator", "init_declarator",
  "parenthesized_declarator", "attributed_declarator", "function_declarator"]

/-- The kinds of levels around no name. -/
def namelessLevels : List String := ["abstract_pointer_declarator", "abstract_array_declarator",
  "abstract_parenthesized_declarator", "abstract_function_declarator"]

/-- Whether a declarator holds a node as its next level: in a field, or else as a named child with
nothing but modifiers and comments in front of it. -/
inductive HoldsLevel (t c : SyntaxTree) : Prop
  | inField (h : t.field? "declarator" = some c)
  | between {before after : List SyntaxTree} (hfield : t.field? "declarator" = none)
      (hnamed : t.namedChildren = before ++ c :: after)
      (hbefore : ∀ x ∈ before, x.kind ∈ ["ms_call_modifier", "comment"])

/-- Whether a name is the one that a declarator declares. -/
inductive IsDeclaredBy (name : SyntaxTree) : SyntaxTree → Prop
  | name (hkind : name.kind = "identifier") : IsDeclaredBy name name
  | level {t c : SyntaxTree} (hkind : t.kind ∈ namingLevels) (hlevel : t.HoldsLevel c)
      (h : IsDeclaredBy name c) : IsDeclaredBy name t

/-- Whether a declarator declares no name, and the size of its innermost level if that is an array
with one. A size is an expression, and no kind of expressions ends like those of declarators. -/
inductive DeclaresNothing (size : Option SyntaxTree) : SyntaxTree → Prop
  | innermost {t : SyntaxTree} (hkind : t.kind ∈ namelessLevels)
      (hfield : t.field? "declarator" = none)
      (hchildren : ∀ c ∈ t.namedChildren, some c = size ∨
        c.kind ∈ ["type_qualifier", "ms_pointer_modifier", "parameter_list", "comment"])
      (hsize : ∀ e, size = some e → t.kind = "abstract_array_declarator" ∧
        t.field? "size" = some e ∧ e.info.isNamed = true ∧ e.kind.endsWith "declarator" = false) :
      DeclaresNothing size t
  | level {t c : SyntaxTree} (hkind : t.kind ∈ namelessLevels) (hlevel : t.HoldsLevel c)
      (h : DeclaresNothing size c) : DeclaresNothing size t

section Descent

variable {t c : SyntaxTree}

theorem innerDeclarator?_of_field?_eq_none (h : t.field? "declarator" = none) :
    t.innerDeclarator? = t.namedChildren.find? isDeclaratorLevel := by
  have hboth : ∀ a b : Bool, decide (a = true ∧ (a && b) = true) = (a && b) := by decide
  have hlevel : ∀ c : SyntaxTree,
      decide (c.info.isNamed = true ∧ c.isDeclaratorLevel = true) = c.isDeclaratorLevel :=
    fun c => hboth _ _
  simp [innerDeclarator?, h, namedChildren, List.find?_filter, hlevel]

/-- A level that looks like one is found. -/
theorem HoldsLevel.innerDeclarator?_eq (h : t.HoldsLevel c)
    (hc : c.kind.endsWith "declarator" = true ∨ c.kind = "identifier") :
    t.innerDeclarator? = some c := by
  cases h with
  | inField h => simp [innerDeclarator?, h]
  | @between before after hfield hnamed hbefore =>
    have hprefix : before.find? isDeclaratorLevel = none := by
      refine List.find?_eq_none.mpr fun x hx => ?_
      have hother : ∀ k ∈ ["ms_call_modifier", "comment"],
          (k.endsWith "declarator" || k == "identifier") = false := by decide +kernel
      simp [isDeclaratorLevel, hother _ (hbefore x hx)]
    have hmem : c ∈ t.namedChildren := by simp [hnamed]
    have hlevel : c.isDeclaratorLevel = true := by
      have hisNamed : c.info.isNamed = true := (List.mem_filter.mp hmem).2
      rcases hc with hc | hc <;> simp [isDeclaratorLevel, hisNamed, hc]
    rw [innerDeclarator?_of_field?_eq_none hfield, hnamed, List.find?_append, hprefix,
      Option.none_or, List.find?_cons_of_pos hlevel]

/-- The search for a name stops at a name and at a function, and goes on with the next level
elsewhere. -/
theorem declaredVariable?_eq (t : SyntaxTree) : t.declaredVariable? =
    if t.kind = "identifier" then some t
    else if t.kind = "function_declarator" then none
    else t.innerDeclarator?.bind declaredVariable? := by
  rw [declaredVariable?, declaratorChain_eq]
  by_cases hname : t.kind = "identifier"
  · simp [hname]
  · by_cases hfunction : t.kind = "function_declarator"
    · simp [hfunction]
    · cases hinner : t.innerDeclarator? with
      | none => simp [hname, hfunction]
      | some c => simp [hname, hfunction, declaredVariable?]

theorem functionLevel?_eq (t : SyntaxTree) : t.functionLevel? =
    if t.kind = "function_declarator" then some t
    else t.innerDeclarator?.bind functionLevel? := by
  rw [functionLevel?, declaratorChain_eq]
  by_cases hfunction : t.kind = "function_declarator"
  · simp [hfunction]
  · cases hinner : t.innerDeclarator? with
    | none => simp [hfunction]
    | some c => simp [hfunction, functionLevel?]

end Descent

section Names

variable {t name : SyntaxTree} {size : Option SyntaxTree}

theorem IsDeclaredBy.looksLikeLevel (h : IsDeclaredBy name t) :
    t.kind.endsWith "declarator" = true ∨ t.kind = "identifier" := by
  cases h with
  | name hkind => exact .inr hkind
  | level hkind =>
    have hall : ∀ k ∈ namingLevels, k.endsWith "declarator" = true := by decide +kernel
    exact .inl (hall _ hkind)

theorem DeclaresNothing.kind_mem (h : DeclaresNothing size t) : t.kind ∈ namelessLevels := by
  cases h with
  | innermost hkind => exact hkind
  | level hkind => exact hkind

theorem DeclaresNothing.looksLikeLevel (h : DeclaresNothing size t) :
    t.kind.endsWith "declarator" = true ∨ t.kind = "identifier" := by
  have hall : ∀ k ∈ namelessLevels, k.endsWith "declarator" = true := by decide +kernel
  exact .inl (hall _ h.kind_mem)

/-- Nothing but the name that a declarator declares is found in it. None is found only if a level of
it is a function. -/
theorem IsDeclaredBy.declaredVariable?_eq_or (h : IsDeclaredBy name t) :
    t.declaredVariable? = some name ∨
      t.declaredVariable? = none ∧ ∃ f, t.functionLevel? = some f := by
  induction h with
  | name hkind => exact .inl (by rw [declaredVariable?_eq, if_pos hkind])
  | @level t c hkind hlevel h ih =>
    have hname : t.kind ≠ "identifier" := fun heq => by simp [heq, namingLevels] at hkind
    rw [declaredVariable?_eq, functionLevel?_eq, if_neg hname]
    by_cases hfunction : t.kind = "function_declarator"
    · exact .inr (by simp [hfunction])
    · rw [if_neg hfunction, if_neg hfunction, hlevel.innerDeclarator?_eq h.looksLikeLevel]
      exact ih

/-- Inside the innermost level of a declarator without a name only a size that is a name is taken
for another level. -/
theorem innerDeclarator?_of_innermost (hfield : t.field? "declarator" = none)
    (hchildren : ∀ c ∈ t.namedChildren, some c = size ∨
      c.kind ∈ ["type_qualifier", "ms_pointer_modifier", "parameter_list", "comment"])
    (hsize : ∀ e, size = some e → t.kind = "abstract_array_declarator" ∧
      t.field? "size" = some e ∧ e.info.isNamed = true ∧ e.kind.endsWith "declarator" = false) :
    t.innerDeclarator? = size.filter (·.kind == "identifier") := by
  have hother : ∀ k ∈ ["type_qualifier", "ms_pointer_modifier", "parameter_list", "comment"],
      (k.endsWith "declarator" || k == "identifier") = false := by decide +kernel
  have hlevel : ∀ c ∈ t.namedChildren, c.isDeclaratorLevel = true →
      some c = size ∧ c.kind = "identifier" := by
    intro c hc hlevel
    simp only [isDeclaratorLevel, Bool.and_eq_true] at hlevel
    rcases hchildren c hc with hc | hc
    · exact ⟨hc, by simpa [(hsize c hc.symm).2.2.2] using hlevel.2⟩
    · exact absurd hlevel.2 (by simp [hother _ hc])
  rw [innerDeclarator?_of_field?_eq_none hfield]
  by_cases hname : ∃ e, size = some e ∧ e.kind = "identifier"
  · obtain ⟨e, rfl, he⟩ := hname
    obtain ⟨-, hmem, hnamed, -⟩ := hsize e rfl
    have hfound : t.namedChildren.find? isDeclaratorLevel = some e :=
      find?_eq_some_of_unique (List.mem_filter.mpr ⟨mem_children_of_field? hmem, hnamed⟩)
        (by simp [isDeclaratorLevel, hnamed, he])
        fun c hc h => Option.some.inj (hlevel c hc h).1
    have hfilter : (some e).filter (·.kind == "identifier") = some e :=
      Option.filter_eq_some_iff.mpr ⟨rfl, beq_iff_eq.mpr he⟩
    rw [hfound, hfilter]
  · have hnone : size.filter (·.kind == "identifier") = none :=
      Option.filter_eq_none_iff.mpr fun e he => by simpa using fun h => hname ⟨e, he, h⟩
    rw [hnone, List.find?_eq_none]
    exact fun c hc h => hname ⟨c, (hlevel c hc h).1.symm, (hlevel c hc h).2⟩

/-- In a declarator without a name only a name that sizes its innermost level is found. -/
theorem DeclaresNothing.declaredVariable?_eq (h : DeclaresNothing size t) :
    t.declaredVariable? = size.filter (·.kind == "identifier") := by
  have hstep : ∀ {t : SyntaxTree}, t.kind ∈ namelessLevels →
      t.declaredVariable? = t.innerDeclarator?.bind declaredVariable? := by
    intro t hkind
    have hname : t.kind ≠ "identifier" := fun heq => by simp [heq, namelessLevels] at hkind
    have hfunction : t.kind ≠ "function_declarator" :=
      fun heq => by simp [heq, namelessLevels] at hkind
    rw [SyntaxTree.declaredVariable?_eq, if_neg hname, if_neg hfunction]
  induction h with
  | innermost hkind hfield hchildren hsize =>
    rw [hstep hkind, innerDeclarator?_of_innermost hfield hchildren hsize]
    cases hname : size.filter (·.kind == "identifier") with
    | none => rfl
    | some e =>
      have he : e.kind = "identifier" := by simpa using (Option.filter_eq_some_iff.mp hname).2
      rw [Option.bind_some, SyntaxTree.declaredVariable?_eq, if_pos he]
  | level hkind hlevel h ih =>
    rw [hstep hkind, hlevel.innerDeclarator?_eq h.looksLikeLevel]
    exact ih

end Names

end CodeStyle.SyntaxTree

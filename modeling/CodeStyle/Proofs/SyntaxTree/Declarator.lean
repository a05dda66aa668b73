import CodeStyle.Proofs.SyntaxTree.Fit
import CodeStyle.SyntaxTree.Declarator

/-!
# Nodes below a declaration

The levels of a declarator, and the names that are found through them, are nodes of the declaration.
-/
namespace CodeStyle.SyntaxTree

/-- The only element of a list that passes a test is the one that is found. -/
theorem find?_eq_some_of_unique {α : Type} {as : List α} {p : α → Bool} {a : α} (ha : a ∈ as)
    (hpa : p a = true) (hunique : ∀ b ∈ as, p b = true → b = a) : as.find? p = some a := by
  obtain ⟨b, hb⟩ := Option.isSome_iff_exists.mp (List.find?_isSome.mpr ⟨a, ha, hpa⟩)
  rw [hb, hunique b (List.mem_of_find?_eq_some hb) (List.find?_some hb)]

theorem isNodeOf_of_mem_children {t c : SyntaxTree} (h : c ∈ t.children) : IsNodeOf t c :=
  .child .root h

theorem mem_children_of_mem_fields {t c : SyntaxTree} {name : String} (h : c ∈ t.fields name) :
    c ∈ t.children :=
  (List.mem_filter.mp h).1

theorem take_one_fields (t : SyntaxTree) (name : String) :
    (t.fields name).take 1 = (t.field? name).toList := by
  rw [List.take_one, fields, field?, List.head?_filter]

mutual

/-- The levels of a declarator stand in it. -/
theorem isNodeOf_of_mem_declaratorChain :
    ∀ {t u : SyntaxTree}, u ∈ t.declaratorChain → IsNodeOf t u
  | node i cs, u, h => by
    rw [declaratorChain, List.mem_cons] at h
    rcases h with rfl | h
    · exact .root
    · obtain ⟨p, chain, hchain, hu⟩ : ∃ p chain, chainOfFirst p cs = some chain ∧ u ∈ chain := by
        cases hfield : chainOfFirst (inField "declarator") cs with
        | some chain => exact ⟨_, chain, hfield, by simpa [hfield] using h⟩
        | none =>
          cases hlevel : chainOfFirst isDeclaratorLevel cs with
          | some chain => exact ⟨_, chain, hlevel, by simpa [hfield, hlevel] using h⟩
          | none => simp [hfield, hlevel] at h
      obtain ⟨c, hc, hnode⟩ := exists_isNodeOf_of_chainOfFirst hchain hu
      have hchild : IsNodeOf (node i cs) c := .child .root hc
      exact hchild.trans hnode

theorem exists_isNodeOf_of_chainOfFirst : ∀ {p : SyntaxTree → Bool} {cs chain : List SyntaxTree}
    {u : SyntaxTree}, chainOfFirst p cs = some chain → u ∈ chain → ∃ c ∈ cs, IsNodeOf c u
  | _, [], _, _, h, _ => by simp [chainOfFirst] at h
  | p, c :: cs, chain, u, h, hu => by
    rw [chainOfFirst] at h
    split at h
    · rw [← Option.some.inj h] at hu
      exact ⟨c, List.mem_cons_self, isNodeOf_of_mem_declaratorChain hu⟩
    · obtain ⟨d, hd, hnode⟩ := exists_isNodeOf_of_chainOfFirst h hu
      exact ⟨d, List.mem_cons_of_mem _ hd, hnode⟩

end

section Names

variable {t u : SyntaxTree}

theorem isNodeOf_of_functionLevel? (h : t.functionLevel? = some u) : IsNodeOf t u :=
  isNodeOf_of_mem_declaratorChain (List.mem_of_find?_eq_some h)

theorem isNodeOf_of_declaredName? (h : t.declaredName? = some u) : IsNodeOf t u :=
  isNodeOf_of_mem_declaratorChain (List.mem_of_find?_eq_some h)

theorem isNodeOf_of_declaredVariable? (h : t.declaredVariable? = some u) : IsNodeOf t u := by
  obtain ⟨hfind, -⟩ := Option.filter_eq_some_iff.mp h
  exact isNodeOf_of_mem_declaratorChain (List.mem_of_find?_eq_some hfind)

theorem isNodeOf_of_definedFunction? (h : t.definedFunction? = some u) : IsNodeOf t u := by
  obtain ⟨d, hd, hlevel⟩ := Option.bind_eq_some_iff.mp h
  exact (isNodeOf_of_mem_children (mem_children_of_field? hd)).trans
    (isNodeOf_of_functionLevel? hlevel)

theorem isNodeOf_of_functionName? (h : t.functionName? = some u) : IsNodeOf t u := by
  obtain ⟨d, hd, hname⟩ := Option.bind_eq_some_iff.mp h
  obtain ⟨f, hf, hfield⟩ := Option.bind_eq_some_iff.mp hd
  have hdeclarator := isNodeOf_of_mem_children (mem_children_of_field? hfield)
  exact ((isNodeOf_of_definedFunction? hf).trans hdeclarator).trans
    (isNodeOf_of_declaredName? hname)

theorem isNodeOf_of_mem_declaredNames (h : u ∈ t.declaredNames) : IsNodeOf t u := by
  obtain ⟨d, hd, hname⟩ := List.mem_filterMap.mp h
  exact (isNodeOf_of_mem_children (mem_children_of_mem_fields hd)).child
    (mem_children_of_field? hname)

end Names

end CodeStyle.SyntaxTree

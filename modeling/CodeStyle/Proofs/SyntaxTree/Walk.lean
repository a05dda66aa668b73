import CodeStyle.Proofs.Except
import CodeStyle.Proofs.SyntaxTree.Fit
import CodeStyle.SyntaxTree.Walk

/-!
# Walks in order

Visits with a stack of pending trees are made at the same nodes and in the same order as those of
the list of nodes in preorder. So a walk finds what is found at these nodes, one after the other, and
it succeeds if all visits do.
-/
namespace CodeStyle.SyntaxTree

variable {ε σ α : Type} {find : SyntaxTree → Except ε (List α)}

theorem preorderNamed_eq (cs : List SyntaxTree) :
    preorderNamed cs = (cs.filter (·.info.isNamed)).flatMap preorder := by
  induction cs with
  | nil => rfl
  | cons c cs ih =>
    by_cases h : c.info.isNamed = true
    · simp [preorderNamed, h, ih]
    · simp [preorderNamed, h, ih]

/-- A tree comes before what its named children lead to. -/
theorem preorder_eq (t : SyntaxTree) : t.preorder = t :: t.namedChildren.flatMap preorder := by
  cases t with
  | node i cs => simp [preorder, preorderNamed_eq, namedChildren]

section Stack

variable (visit : Visit ε σ)

theorem visitStack_empty : visitStack visit #[] = pure () := by
  rw [visitStack]
  rfl

/-- The tree on top of the stack is visited and makes way for its children. -/
theorem visitStack_push (below : Array SyntaxTree) (t : SyntaxTree) :
    visitStack visit (below.push t) = (do
      visit t
      visitStack visit (below ++ t.namedChildren.reverse)) := by
  rw [visitStack]
  split
  · rename_i h
    simp at h
  · rename_i u h
    obtain rfl : t = u := by simpa using h
    rw [Array.pop_push]

/-- A stack stands for the nodes that its trees lead to, from its top to its bottom. -/
theorem visitStack_eq (stack : Array SyntaxTree) :
    visitStack visit stack = forM (stack.toList.reverse.flatMap preorder) visit := by
  induction stack using visitStack.induct with
  | case1 stack h =>
    obtain rfl := Array.back?_eq_none_iff.mp h
    exact visitStack_empty visit
  | case2 stack t h ih =>
    obtain ⟨below, rfl⟩ := Array.back?_eq_some_iff.mp h
    rw [Array.pop_push] at ih
    rw [visitStack_push, ih]
    -- the children were pushed in reverse, so they are next and in order
    simp only [Array.toList_appendList, Array.toList_push, List.reverse_append, List.reverse_reverse,
      List.reverse_cons, List.reverse_nil, List.nil_append, List.cons_append, List.flatMap_append,
      List.flatMap_cons, preorder_eq t, List.forM_cons]

/-- A tree is visited in preorder. -/
theorem visitAll_eq (t : SyntaxTree) : t.visitAll visit = forM t.preorder visit := by
  simp [visitAll, visitStack_eq]

end Stack

theorem stateOrError_forM_collecting (l : List SyntaxTree) (found : List α) :
    stateOrError ((forM l (collecting find)).run found) =
      (l.mapM find).map (found ++ ·.flatten) := by
  induction l generalizing found with
  | nil => simp [stateOrError]
  | cons t l ih =>
    rw [List.forM_cons, EStateM.run_bind]
    cases ht : find t with
    | error e =>
      have hrun : (collecting find t).run found = .error e found := by
        simp only [EStateM.run, collecting, ht]
      rw [Except.mapM_cons_of_error ht, hrun]
      rfl
    | ok more =>
      have hrun : (collecting find t).run found = .ok () (found ++ more) := by
        simp only [EStateM.run, collecting, ht]
      rw [Except.mapM_cons_of_ok ht, hrun]
      simp only [ih]
      cases l.mapM find <;> simp

/-- A walk visits the nodes in preorder. -/
theorem walk_eq (t : SyntaxTree) : t.walk find = (t.preorder.mapM find).map List.flatten := by
  rw [walk, visitAll_eq, stateOrError_forM_collecting]
  simp only [List.nil_append]

/-- A walk whose visits cannot fail finds what they find, in their order. -/
theorem walk_ok_eq (find : SyntaxTree → List α) (t : SyntaxTree) :
    t.walk (fun u => (.ok (find u) : Except ε (List α))) = .ok (t.preorder.flatMap find) := by
  have hvisits : t.preorder.mapM (fun u => (.ok (find u) : Except ε (List α))) =
      .ok (t.preorder.map find) := List.mapM_pure
  rw [walk_eq, hvisits, List.flatMap_def]
  rfl

theorem exists_walk_eq_ok_iff {t : SyntaxTree} :
    (∃ found, t.walk find = .ok found) ↔ ∀ u ∈ t.preorder, ∃ found, find u = .ok found := by
  rw [walk_eq, Except.exists_map_eq_ok_iff, Except.exists_mapM_eq_ok_iff]

/-- A walk finds nothing if no visit does. -/
theorem walk_eq_ok_nil_iff {t : SyntaxTree} :
    t.walk find = .ok [] ↔ ∀ u ∈ t.preorder, find u = .ok [] := by
  rw [walk_eq, Except.mapM_flatten_eq_ok_nil_iff]

/-- What a walk finds is what its visits find. -/
theorem mem_of_walk_eq_ok_iff {t : SyntaxTree} {found : List α} (h : t.walk find = .ok found)
    (a : α) : a ∈ found ↔ ∃ u ∈ t.preorder, ∃ more, find u = .ok more ∧ a ∈ more := by
  rw [walk_eq, Except.map_eq_ok_iff] at h
  obtain ⟨lists, hlists, rfl⟩ := h
  rw [Except.mem_flatten_of_mapM_eq_ok_iff hlists]

theorem exists_of_walk_eq_error {t : SyntaxTree} {e : ε} (h : t.walk find = .error e) :
    ∃ u ∈ t.preorder, find u = .error e := by
  rw [walk_eq] at h
  exact Except.exists_of_mapM_eq_error (Except.map_eq_error_iff.mp h)

mutual

/-- The nodes that a walk visits are nodes of the tree. -/
theorem isNodeOf_of_mem_preorder : ∀ {t u : SyntaxTree}, u ∈ t.preorder → IsNodeOf t u
  | node i cs, u, h => by
    rw [preorder] at h
    rcases List.mem_cons.mp h with rfl | h
    · exact .root
    · obtain ⟨c, hc, hu⟩ := exists_isNodeOf_of_mem_preorderNamed h
      have hchild : c ∈ (node i cs).children := hc
      exact (IsNodeOf.root.child hchild).trans hu

theorem exists_isNodeOf_of_mem_preorderNamed : ∀ {cs : List SyntaxTree} {u : SyntaxTree},
    u ∈ preorderNamed cs → ∃ c ∈ cs, IsNodeOf c u
  | c :: cs, u, h => by
    rw [preorderNamed] at h
    by_cases hc : c.info.isNamed = true
    · rw [if_pos hc] at h
      rcases List.mem_append.mp h with h | h
      · exact ⟨c, List.mem_cons_self, isNodeOf_of_mem_preorder h⟩
      · obtain ⟨d, hd, hu⟩ := exists_isNodeOf_of_mem_preorderNamed h
        exact ⟨d, List.mem_cons_of_mem c hd, hu⟩
    · rw [if_neg hc] at h
      obtain ⟨d, hd, hu⟩ := exists_isNodeOf_of_mem_preorderNamed h
      exact ⟨d, List.mem_cons_of_mem c hd, hu⟩

end

theorem self_mem_preorder (t : SyntaxTree) : t ∈ t.preorder := by
  rw [preorder_eq]
  exact List.mem_cons_self

mutual

/-- A walk that visits a node visits its named children. -/
theorem mem_preorder_of_mem_namedChildren : ∀ {t u c : SyntaxTree}, u ∈ t.preorder →
    c ∈ u.namedChildren → c ∈ t.preorder
  | node i cs, u, c, hu, hc => by
    rw [preorder] at hu ⊢
    rcases List.mem_cons.mp hu with rfl | hu
    · rw [preorderNamed_eq]
      exact List.mem_cons_of_mem _ (List.mem_flatMap.mpr ⟨c, hc, self_mem_preorder c⟩)
    · exact List.mem_cons_of_mem _ (mem_preorderNamed_of_mem_namedChildren hu hc)

theorem mem_preorderNamed_of_mem_namedChildren : ∀ {cs : List SyntaxTree} {u c : SyntaxTree},
    u ∈ preorderNamed cs → c ∈ u.namedChildren → c ∈ preorderNamed cs
  | d :: cs, u, c, hu, hc => by
    rw [preorderNamed] at hu ⊢
    by_cases hd : d.info.isNamed = true
    · rw [if_pos hd] at hu ⊢
      rcases List.mem_append.mp hu with hu | hu
      · exact List.mem_append_left _ (mem_preorder_of_mem_namedChildren hu hc)
      · exact List.mem_append_right _ (mem_preorderNamed_of_mem_namedChildren hu hc)
    · rw [if_neg hd] at hu ⊢
      exact mem_preorderNamed_of_mem_namedChildren hu hc

end

end CodeStyle.SyntaxTree

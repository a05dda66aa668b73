import CodeStyle.Proofs.SyntaxTree.Walk

/-!
# Tokens

Grammars give no name to tokens, and nothing stands below a token. Named children then lead to all
named nodes of a tree, so that a walk misses none of them.
-/
namespace CodeStyle.SyntaxTree

mutual

/-- Whether all nodes without a name are tokens, which have no children. -/
def hasLeafTokens : SyntaxTree → Bool
  | node i cs => (i.isNamed || cs.isEmpty) && haveLeafTokens cs

/-- Whether this holds in each of some trees. -/
def haveLeafTokens : List SyntaxTree → Bool
  | [] => true
  | c :: cs => hasLeafTokens c && haveLeafTokens cs

end

variable {root t : SyntaxTree}

theorem haveLeafTokens_iff {cs : List SyntaxTree} :
    haveLeafTokens cs = true ↔ ∀ c ∈ cs, c.hasLeafTokens = true := by
  induction cs with
  | nil => simp [haveLeafTokens]
  | cons c cs ih => simp [haveLeafTokens, ih]

theorem hasLeafTokens_iff :
    t.hasLeafTokens = true ↔ (t.info.isNamed = true ∨ t.children = []) ∧
      ∀ c ∈ t.children, c.hasLeafTokens = true := by
  cases t with
  | node i cs => simp [hasLeafTokens, haveLeafTokens_iff]

theorem IsNodeOf.hasLeafTokens (ht : IsNodeOf root t) (h : root.hasLeafTokens = true) :
    t.hasLeafTokens = true := by
  induction ht with
  | root => exact h
  | child _ hc ih => exact (hasLeafTokens_iff.mp ih).2 _ hc

/-- A walk visits all named nodes: a node with children has a name itself. -/
theorem mem_preorder_of_isNodeOf (h : root.hasLeafTokens = true) (ht : IsNodeOf root t)
    (hnamed : t.info.isNamed = true) : t ∈ root.preorder := by
  induction ht with
  | root => exact self_mem_preorder root
  | @child u c hu hc ih =>
    have hparent : u.info.isNamed = true := by
      refine (hasLeafTokens_iff.mp (hu.hasLeafTokens h)).1.resolve_right fun hnil => ?_
      rw [hnil] at hc
      exact List.not_mem_nil hc
    exact mem_preorder_of_mem_namedChildren (ih hparent) (List.mem_filter.mpr ⟨hc, hnamed⟩)

end CodeStyle.SyntaxTree

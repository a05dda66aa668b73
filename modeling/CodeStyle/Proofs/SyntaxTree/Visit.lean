import CodeStyle.Proofs.SyntaxTree.Address

/-!
# Visits up to the first failure

Visits with a stack of pending trees are those of the recursion over the tree. A visit that records
the nodes at which it is made shows which visits there are: one for each node that named children
lead to, in preorder, as long as none has failed.
-/
namespace CodeStyle.SyntaxTree

variable {ε σ : Type} {visit : Visit ε σ}

mutual

/-- Visits a tree by recursion: first its root, then what each of its named children leads to. -/
def visitRec (visit : Visit ε σ) : SyntaxTree → EStateM ε σ Unit
  | node i cs => do
    visit (node i cs)
    visitNamed visit cs

/-- Visits by recursion what the named ones of some children lead to. -/
def visitNamed (visit : Visit ε σ) : List SyntaxTree → EStateM ε σ Unit
  | [] => pure ()
  | c :: cs =>
    if c.info.isNamed then do
      visitRec visit c
      visitNamed visit cs
    else visitNamed visit cs

end

mutual

theorem visitRec_eq (visit : Visit ε σ) :
    ∀ t : SyntaxTree, t.visitRec visit = forM t.preorder visit
  | node i cs => by rw [visitRec, preorder, List.forM_cons, visitNamed_eq visit cs]

theorem visitNamed_eq (visit : Visit ε σ) :
    ∀ cs : List SyntaxTree, visitNamed visit cs = forM (preorderNamed cs) visit
  | [] => by rw [visitNamed, preorderNamed, List.forM_nil]
  | c :: cs => by
    rw [visitNamed, preorderNamed, visitRec_eq visit c, visitNamed_eq visit cs]
    split
    · rw [List.forM_append]
    · rfl

end

mutual

/-- A tree has no fewer nodes than those to which named children lead. -/
theorem length_preorder_le_size : ∀ t : SyntaxTree, t.preorder.length ≤ t.size
  | node i cs => by
    have := length_preorderNamed_le_sizeAll cs
    simp only [preorder, size, List.length_cons]
    omega

theorem length_preorderNamed_le_sizeAll :
    ∀ cs : List SyntaxTree, (preorderNamed cs).length ≤ sizeAll cs
  | [] => Nat.le_refl 0
  | c :: cs => by
    have hhead := length_preorder_le_size c
    have htail := length_preorderNamed_le_sizeAll cs
    rw [preorderNamed, sizeAll]
    split
    · rw [List.length_append]
      omega
    · omega

end

/-- A result whose state also holds the nodes at which visits have been made. -/
def withCalls (calls : List SyntaxTree) :
    EStateM.Result ε σ Unit → EStateM.Result ε (σ × List SyntaxTree) Unit
  | .ok u s => .ok u (s, calls)
  | .error e s => .error e (s, calls)

/-- A visit that also records the node at which it is made. -/
def recording (visit : Visit ε σ) : Visit ε (σ × List SyntaxTree) := fun t p =>
  withCalls (p.2 ++ [t]) ((visit t).run p.1)

/-- Visits one after the other that all succeed, from a state to another. -/
inductive Succeed (visit : Visit ε σ) : σ → List SyntaxTree → σ → Prop
  | nil (s : σ) : Succeed visit s [] s
  | cons {s s₁ s' : σ} {t : SyntaxTree} {ts : List SyntaxTree} (h : (visit t).run s = .ok () s₁)
      (hrest : Succeed visit s₁ ts s') : Succeed visit s (t :: ts) s'

/-- How visits that are to be made at some nodes one after the other end, and at which nodes they
are made: at all of them, or up to the first at which a visit fails. -/
inductive Ends (visit : Visit ε σ) (s : σ) (nodes : List SyntaxTree) :
    EStateM.Result ε σ Unit → List SyntaxTree → Prop
  | ok {s' : σ} (h : Succeed visit s nodes s') : Ends visit s nodes (.ok () s') nodes
  | error {before after : List SyntaxTree} {u : SyntaxTree} {s₁ s' : σ} {e : ε}
      (hnodes : nodes = before ++ u :: after) (hbefore : Succeed visit s before s₁)
      (hu : (visit u).run s₁ = .error e s') : Ends visit s nodes (.error e s') (before ++ [u])

/-- A visit that succeeds goes in front of those behind it, however they end. -/
theorem Ends.cons {s s₁ : σ} {t : SyntaxTree} {ts calls : List SyntaxTree}
    {result : EStateM.Result ε σ Unit} (ht : (visit t).run s = .ok () s₁)
    (h : Ends visit s₁ ts result calls) : Ends visit s (t :: ts) result (t :: calls) := by
  cases h with
  | ok hts => exact .ok (.cons ht hts)
  | error hnodes hbefore hu =>
    exact .error (congrArg (t :: ·) hnodes) (.cons ht hbefore) hu

/-- Visits of a list end in one of the two ways, and the record of their calls bears that out. -/
theorem exists_ends_forM (visit : Visit ε σ) (nodes recorded : List SyntaxTree) (s : σ) :
    ∃ calls, (forM nodes (recording visit)).run (s, recorded) =
        withCalls (recorded ++ calls) ((forM nodes visit).run s) ∧
      Ends visit s nodes ((forM nodes visit).run s) calls := by
  induction nodes generalizing s recorded with
  | nil => exact ⟨[], by simp [withCalls], .ok (.nil s)⟩
  | cons t ts ih =>
    have hrecord : (recording visit t).run (s, recorded) =
        withCalls (recorded ++ [t]) ((visit t).run s) := rfl
    simp only [List.forM_cons, EStateM.run_bind, hrecord]
    cases ht : (visit t).run s with
    | error e s' =>
      have hends : Ends visit s (t :: ts) (.error e s') ([] ++ [t]) := .error rfl (.nil s) ht
      exact ⟨[t], rfl, hends⟩
    | ok u s₁ =>
      -- the other visits start from what this one leaves behind, its record included
      obtain ⟨calls, hrun, hends⟩ := ih (recorded ++ [t]) s₁
      refine ⟨t :: calls, ?_, hends.cons ht⟩
      simpa [withCalls] using hrun

/-- A tree is visited with a stack as it is by recursion. There is one visit for each node to which
named children lead, told apart by their addresses, in preorder, and so there are no more visits than
nodes. They are made up to the first that fails, whose error is the result; if none fails, all are
made. -/
theorem visitAll_eq_visitRec_and_exists_ends (visit : Visit ε σ) (t : SyntaxTree) (s : σ) :
    t.visitAll visit = t.visitRec visit ∧
      ∃ places : List (List Nat × SyntaxTree),
        places.Pairwise (fun p q => p.1 < q.1) ∧
        (∀ address u, (address, u) ∈ places ↔ IsVisited t address u) ∧
        places.map Prod.snd = t.preorder ∧ places.length ≤ t.size ∧
        ∃ calls, (t.visitAll (recording visit)).run (s, []) =
            withCalls calls ((t.visitAll visit).run s) ∧
          Ends visit s (places.map Prod.snd) ((t.visitAll visit).run s) calls := by
  refine ⟨by rw [visitAll_eq, visitRec_eq], t.preorderAt, pairwise_preorderAt t,
    fun address u => mem_preorderAt_iff, map_snd_preorderAt t, ?_, ?_⟩
  · have hlength := congrArg List.length (map_snd_preorderAt t)
    rw [List.length_map] at hlength
    exact hlength ▸ length_preorder_le_size t
  · obtain ⟨calls, hrun, hends⟩ := exists_ends_forM visit t.preorder [] s
    rw [visitAll_eq, visitAll_eq, map_snd_preorderAt]
    exact ⟨calls, hrun, hends⟩

/-- A failure inside a subtree leaves what comes behind it unvisited. -/
example : ((named "a" none 0 4 [named "b" none 0 2 [named "c" none 0 1 []],
      named "d" none 3 4 []]).visitAll fun t kinds =>
        if t.kind = "c" then .error t.kind kinds else .ok () (kinds ++ [t.kind])).run [] =
    .error "c" ["a", "b"] := by
  cbv

end CodeStyle.SyntaxTree

import CodeStyle.Proofs.SyntaxTree.Tokens

/-!
# Addresses of nodes

The address of a node lists the numbers of the children that lead to it, so addresses compared
lexicographically stand in document order. A walk visits the nodes to which named ones lead, each at
its address, in that order.
-/
namespace CodeStyle.SyntaxTree

/-- The node at an address. -/
def nodeAt? : SyntaxTree → List Nat → Option SyntaxTree
  | t, [] => some t
  | t, k :: address => t.children[k]?.bind (nodeAt? · address)

/-- Whether a walk visits the node at an address: all nodes that lead to it are named. -/
structure IsVisited (root : SyntaxTree) (address : List Nat) (t : SyntaxTree) : Prop where
  at_address : root.nodeAt? address = some t
  named : ∀ front u, front <+: address → root.nodeAt? front = some u → front ≠ [] →
    u.info.isNamed = true

mutual

/-- The nodes that a walk visits with their addresses. -/
def preorderAt : SyntaxTree → List (List Nat × SyntaxTree)
  | node i cs => ([], node i cs) :: preorderAtNamed 0 cs

/-- The nodes below the named ones of some children, which are numbered from a number on. -/
def preorderAtNamed (k : Nat) : List SyntaxTree → List (List Nat × SyntaxTree)
  | [] => []
  | c :: cs =>
    if c.info.isNamed then (preorderAt c).map (Prod.map (k :: ·) id) ++ preorderAtNamed (k + 1) cs
    else preorderAtNamed (k + 1) cs

end

variable {t u : SyntaxTree} {address : List Nat}

theorem nodeAt?_cons {k : Nat} :
    t.nodeAt? (k :: address) = some u ↔ ∃ c, t.children[k]? = some c ∧ c.nodeAt? address = some u := by
  rw [nodeAt?, Option.bind_eq_some_iff]

/-- The nodes that lead to an address below a child are the root and those that lead to the rest of
the address in the child. -/
theorem forall_front_cons_iff {k : Nat} {c : SyntaxTree} {P : List Nat → SyntaxTree → Prop}
    (hc : t.children[k]? = some c) :
    (∀ front u, front <+: k :: address → t.nodeAt? front = some u → P front u) ↔
      P [] t ∧ ∀ front u, front <+: address → c.nodeAt? front = some u → P (k :: front) u := by
  constructor
  · intro h
    exact ⟨h [] t List.nil_prefix rfl, fun front u hfront hu =>
      h (k :: front) u (List.cons_prefix_cons.mpr ⟨rfl, hfront⟩) (nodeAt?_cons.mpr ⟨c, hc, hu⟩)⟩
  · rintro ⟨hroot, hbelow⟩ front u hfront hu
    obtain rfl | ⟨rest, rfl, hrest⟩ := List.prefix_cons_iff.mp hfront
    · obtain rfl := Option.some.inj hu
      exact hroot
    · obtain ⟨d, hd, hu⟩ := nodeAt?_cons.mp hu
      obtain rfl := Option.some.inj (hc.symm.trans hd)
      exact hbelow rest u hrest hu

theorem isVisited_nil_iff : IsVisited t [] u ↔ t = u := by
  constructor
  · intro h
    exact Option.some.inj h.at_address
  · rintro rfl
    exact ⟨rfl, fun front _ hfront _ hne => absurd (List.prefix_nil.mp hfront) hne⟩

/-- A node below a visited one is visited by way of a named child. -/
theorem isVisited_cons_iff {k : Nat} : IsVisited t (k :: address) u ↔
    ∃ c, t.children[k]? = some c ∧ c.info.isNamed = true ∧ IsVisited c address u := by
  constructor
  · intro h
    obtain ⟨c, hc, hu⟩ := nodeAt?_cons.mp h.at_address
    obtain ⟨-, hnamed⟩ := (forall_front_cons_iff hc).mp h.named
    exact ⟨c, hc, hnamed [] c List.nil_prefix rfl (List.cons_ne_nil k []), hu,
      fun front v hfront hv _ => hnamed front v hfront hv (List.cons_ne_nil k front)⟩
  · rintro ⟨c, hc, hchild, h⟩
    refine ⟨nodeAt?_cons.mpr ⟨c, hc, h.at_address⟩, ?_⟩
    refine (forall_front_cons_iff hc).mpr ⟨fun hne => absurd rfl hne, ?_⟩
    intro front v hfront hv _
    -- the child itself is the root of its own addresses, where nothing asks for its name
    by_cases hnil : front = []
    · subst hnil
      obtain rfl := Option.some.inj hv
      exact hchild
    · exact h.named front v hfront hv hnil

theorem preorderAtNamed_eq (k : Nat) (cs : List SyntaxTree) :
    preorderAtNamed k cs = (cs.zipIdx k).flatMap fun p =>
      if p.1.info.isNamed then p.1.preorderAt.map (Prod.map (p.2 :: ·) id) else [] := by
  induction cs generalizing k with
  | nil => rfl
  | cons c cs ih =>
    rw [preorderAtNamed, ih, List.zipIdx_cons, List.flatMap_cons]
    split <;> rfl

/-- A tree comes before what its named children lead to, which is listed with their numbers. -/
theorem preorderAt_eq (t : SyntaxTree) :
    t.preorderAt = ([], t) :: t.children.zipIdx.flatMap fun p =>
      if p.1.info.isNamed then p.1.preorderAt.map (Prod.map (p.2 :: ·) id) else [] := by
  cases t with
  | node i cs => rw [preorderAt, preorderAtNamed_eq, children_node]

/-- What is listed of the child with a number. -/
theorem mem_preorderAt_child_iff {p : SyntaxTree × Nat} :
    (address, u) ∈ (if p.1.info.isNamed then p.1.preorderAt.map (Prod.map (p.2 :: ·) id) else []) ↔
      p.1.info.isNamed = true ∧ ∃ rest, address = p.2 :: rest ∧ (rest, u) ∈ p.1.preorderAt := by
  by_cases hnamed : p.1.info.isNamed = true
  · rw [if_pos hnamed, List.mem_map]
    simp only [hnamed, true_and, Prod.exists, Prod.map_apply, id_eq, Prod.mk.injEq]
    constructor
    · rintro ⟨rest, v, hmem, rfl, rfl⟩
      exact ⟨rest, rfl, hmem⟩
    · rintro ⟨rest, rfl, hmem⟩
      exact ⟨rest, u, hmem, rfl, rfl⟩
  · simp [hnamed]

/-- The listed nodes are the visited ones. -/
theorem mem_preorderAt_iff : (address, u) ∈ t.preorderAt ↔ IsVisited t address u := by
  induction address generalizing t with
  | nil =>
    rw [isVisited_nil_iff, preorderAt_eq, List.mem_cons, List.mem_flatMap]
    simp only [mem_preorderAt_child_iff, Prod.mk.injEq, true_and, reduceCtorEq, false_and,
      exists_false, and_false, or_false]
    exact eq_comm
  | cons k address ih =>
    rw [isVisited_cons_iff, preorderAt_eq, List.mem_cons, List.mem_flatMap]
    simp only [mem_preorderAt_child_iff, Prod.mk.injEq, reduceCtorEq, false_and, false_or]
    constructor
    · rintro ⟨p, hp, hnamed, rest, heq, hmem⟩
      obtain ⟨rfl, rfl⟩ := List.cons.inj heq
      exact ⟨p.1, List.mem_zipIdx_iff_getElem?.mp hp, hnamed, ih.mp hmem⟩
    · rintro ⟨c, hc, hnamed, h⟩
      exact ⟨(c, k), List.mem_zipIdx_iff_getElem?.mpr hc, hnamed, address, rfl, ih.mpr h⟩

/-- The addresses below children start with the numbers of the children. -/
theorem exists_of_mem_preorderAtNamed {k : Nat} {cs : List SyntaxTree}
    {p : List Nat × SyntaxTree} (h : p ∈ preorderAtNamed k cs) :
    ∃ j rest, k ≤ j ∧ p.1 = j :: rest := by
  rw [preorderAtNamed_eq, List.mem_flatMap] at h
  obtain ⟨child, hchild, hp⟩ := h
  obtain ⟨-, rest, haddress, -⟩ := mem_preorderAt_child_iff.mp hp
  exact ⟨child.2, rest, List.le_snd_of_mem_zipIdx hchild, haddress⟩

mutual

/-- The nodes are listed in document order. -/
theorem pairwise_preorderAt : ∀ t : SyntaxTree, t.preorderAt.Pairwise fun p q => p.1 < q.1
  | node i cs => by
    rw [preorderAt]
    refine List.pairwise_cons.mpr ⟨fun p hp => ?_, pairwise_preorderAtNamed 0 cs⟩
    obtain ⟨j, rest, -, haddress⟩ := exists_of_mem_preorderAtNamed hp
    rw [haddress]
    exact List.nil_lt_cons j rest

theorem pairwise_preorderAtNamed (k : Nat) : ∀ cs : List SyntaxTree,
    (preorderAtNamed k cs).Pairwise fun p q => p.1 < q.1
  | [] => List.Pairwise.nil
  | c :: cs => by
    rw [preorderAtNamed]
    split
    · refine List.pairwise_append.mpr
        ⟨List.pairwise_map.mpr ?_, pairwise_preorderAtNamed (k + 1) cs, ?_⟩
      · exact (pairwise_preorderAt c).imp fun h => List.cons_lt_cons_iff.mpr (.inr ⟨rfl, h⟩)
      · intro p hp q hq
        obtain ⟨r, -, rfl⟩ := List.mem_map.mp hp
        obtain ⟨j, rest, hj, haddress⟩ := exists_of_mem_preorderAtNamed hq
        rw [haddress]
        exact List.cons_lt_cons_iff.mpr (.inl hj)
    · exact pairwise_preorderAtNamed (k + 1) cs

end

mutual

/-- The listed nodes without their addresses are those of the tree in preorder. -/
theorem map_snd_preorderAt : ∀ t : SyntaxTree, t.preorderAt.map Prod.snd = t.preorder
  | node i cs => by rw [preorderAt, preorder, List.map_cons, map_snd_preorderAtNamed 0 cs]

theorem map_snd_preorderAtNamed (k : Nat) : ∀ cs : List SyntaxTree,
    (preorderAtNamed k cs).map Prod.snd = preorderNamed cs
  | [] => rfl
  | c :: cs => by
    rw [preorderAtNamed, preorderNamed, ← map_snd_preorderAt c, ← map_snd_preorderAtNamed (k + 1) cs]
    split
    · simp
    · rfl

end

/-- Where nothing stands below tokens, all nodes with children are visited. -/
theorem isVisited_of_hasLeafTokens (htokens : t.hasLeafTokens = true)
    (hu : t.nodeAt? address = some u) (hchildren : u.children ≠ []) : IsVisited t address u := by
  induction address generalizing t with
  | nil => exact isVisited_nil_iff.mpr (Option.some.inj hu)
  | cons k address ih =>
    obtain ⟨c, hc, hu⟩ := nodeAt?_cons.mp hu
    obtain ⟨-, hbelow⟩ := hasLeafTokens_iff.mp htokens
    have hleaf : c.hasLeafTokens = true := hbelow c (List.mem_of_getElem? hc)
    have hparent : c.children ≠ [] := by
      cases address with
      | nil =>
        obtain rfl := Option.some.inj hu
        exact hchildren
      | cons j address =>
        obtain ⟨d, hd, -⟩ := nodeAt?_cons.mp hu
        exact List.ne_nil_of_mem (List.mem_of_getElem? hd)
    have hnamed : c.info.isNamed = true :=
      (hasLeafTokens_iff.mp hleaf).1.resolve_right hparent
    exact isVisited_cons_iff.mpr ⟨c, hc, hnamed, ih hleaf hu⟩

end CodeStyle.SyntaxTree

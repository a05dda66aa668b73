import CodeStyle.Proofs.SyntaxTree.Address
import CodeStyle.SyntaxTree.Problems

/-!
# Problems in document order

A node is inside another if its address continues that of the other. The problems of a tree are the
topmost ones that flagged nodes lead to, in document order. Their collection carries what it has
found along and stops when this is enough; it finds the first ones.
-/
namespace CodeStyle.SyntaxTree

/-- Whether a node at an address is a problem to which flagged nodes lead that are no problems. -/
structure IsTopmostProblem (root : SyntaxTree) (address : List Nat) (t : SyntaxTree) : Prop where
  at_address : root.nodeAt? address = some t
  problem : t.isProblem = true
  flagged : ∀ front u, front <+: address → root.nodeAt? front = some u → front ≠ [] →
    u.isFlagged = true
  topmost : ∀ front u, front <+: address → root.nodeAt? front = some u → front ≠ address →
    u.isProblem = false

mutual

/-- The problems of a tree with their addresses. -/
def problemsAt : SyntaxTree → List (List Nat × SyntaxTree)
  | node i cs => if isProblem (node i cs) then [([], node i cs)] else problemsAtIn 0 cs

/-- The problems below the flagged ones of some children, which are numbered from a number on. -/
def problemsAtIn (k : Nat) : List SyntaxTree → List (List Nat × SyntaxTree)
  | [] => []
  | c :: cs =>
    if isFlagged c then (problemsAt c).map (Prod.map (k :: ·) id) ++ problemsAtIn (k + 1) cs
    else problemsAtIn (k + 1) cs

end

variable {t u : SyntaxTree} {address : List Nat}

theorem isTopmostProblem_nil_iff :
    IsTopmostProblem t [] u ↔ t = u ∧ t.isProblem = true := by
  constructor
  · intro h
    obtain rfl := Option.some.inj h.at_address
    exact ⟨rfl, h.problem⟩
  · rintro ⟨rfl, hproblem⟩
    exact ⟨rfl, hproblem, fun front _ hfront _ hne => absurd (List.prefix_nil.mp hfront) hne,
      fun front _ hfront _ hne => absurd (List.prefix_nil.mp hfront) hne⟩

/-- A topmost problem below a node is one of a flagged child. -/
theorem isTopmostProblem_cons_iff {k : Nat} :
    IsTopmostProblem t (k :: address) u ↔ t.isProblem = false ∧
      ∃ c, t.children[k]? = some c ∧ c.isFlagged = true ∧ IsTopmostProblem c address u := by
  have hcons (front : List Nat) : k :: front ≠ [] := List.cons_ne_nil k front
  constructor
  · intro h
    obtain ⟨c, hc, hu⟩ := nodeAt?_cons.mp h.at_address
    obtain ⟨-, hflagged⟩ := (forall_front_cons_iff hc).mp h.flagged
    obtain ⟨hroot, htopmost⟩ := (forall_front_cons_iff hc).mp h.topmost
    have hchild : c.isFlagged = true := hflagged [] c List.nil_prefix rfl (hcons [])
    refine ⟨hroot (hcons address).symm, c, hc, hchild, hu, h.problem, ?_, ?_⟩
    · intro front v hfront hv _
      exact hflagged front v hfront hv (hcons front)
    · intro front v hfront hv hne
      exact htopmost front v hfront hv fun heq => hne (List.cons.inj heq).2
  · rintro ⟨hroot, c, hc, hchild, h⟩
    refine ⟨nodeAt?_cons.mpr ⟨c, hc, h.at_address⟩, h.problem, ?_, ?_⟩
    · refine (forall_front_cons_iff hc).mpr ⟨fun hne => absurd rfl hne, ?_⟩
      intro front v hfront hv _
      -- the child itself is the root of its own addresses, where nothing asks for its flag
      by_cases hnil : front = []
      · subst hnil
        obtain rfl := Option.some.inj hv
        exact hchild
      · exact h.flagged front v hfront hv hnil
    · refine (forall_front_cons_iff hc).mpr ⟨fun _ => hroot, ?_⟩
      intro front v hfront hv hne
      exact h.topmost front v hfront hv fun heq => hne (congrArg (k :: ·) heq)

/-- No topmost problem is inside another. -/
theorem IsTopmostProblem.address_eq_of_isPrefix {v : SyntaxTree} {inner : List Nat}
    (h : IsTopmostProblem t address u) (hinner : IsTopmostProblem t inner v)
    (hinside : address <+: inner) : address = inner := by
  by_contra hne
  have hnone : u.isProblem = false := hinner.topmost address u hinside h.at_address hne
  rw [h.problem] at hnone
  contradiction

theorem problemsAt_eq (t : SyntaxTree) :
    t.problemsAt = if t.isProblem then [([], t)] else problemsAtIn 0 t.children := by
  cases t with
  | node i cs => rw [problemsAt, children_node]

theorem mem_problemsAtIn_iff {cs : List SyntaxTree} {k : Nat} :
    (address, u) ∈ problemsAtIn k cs ↔ ∃ j c rest, cs[j]? = some c ∧ c.isFlagged = true ∧
      address = (k + j) :: rest ∧ (rest, u) ∈ c.problemsAt := by
  induction cs generalizing k with
  | nil => simp [problemsAtIn]
  | cons c cs ih =>
    have hhead : (address, u) ∈ c.problemsAt.map (Prod.map (k :: ·) id) ↔
        ∃ rest, address = k :: rest ∧ (rest, u) ∈ c.problemsAt := by
      simp only [List.mem_map, Prod.exists, Prod.map_apply, id_eq, Prod.mk.injEq]
      constructor
      · rintro ⟨rest, v, hmem, rfl, rfl⟩
        exact ⟨rest, rfl, hmem⟩
      · rintro ⟨rest, rfl, hmem⟩
        exact ⟨rest, u, hmem, rfl, rfl⟩
    have htail : (address, u) ∈ problemsAtIn (k + 1) cs ↔ ∃ j d rest, (c :: cs)[j + 1]? = some d ∧
        d.isFlagged = true ∧ address = (k + (j + 1)) :: rest ∧ (rest, u) ∈ d.problemsAt := by
      simp only [ih, List.getElem?_cons_succ, Nat.add_assoc, Nat.add_comm 1]
    constructor
    · intro h
      rw [problemsAtIn] at h
      split at h
      next hflagged =>
        rcases List.mem_append.mp h with h | h
        · obtain ⟨rest, haddress, hmem⟩ := hhead.mp h
          exact ⟨0, c, rest, rfl, hflagged, haddress, hmem⟩
        · obtain ⟨j, found⟩ := htail.mp h
          exact ⟨j + 1, found⟩
      next =>
        obtain ⟨j, found⟩ := htail.mp h
        exact ⟨j + 1, found⟩
    · rintro ⟨j, d, rest, hd, hflagged, haddress, hmem⟩
      rw [problemsAtIn]
      cases j with
      | zero =>
        obtain rfl : c = d := by simpa using hd
        rw [if_pos hflagged]
        exact List.mem_append_left _ (hhead.mpr ⟨rest, haddress, hmem⟩)
      | succ j =>
        have hbehind := htail.mpr ⟨j, d, rest, hd, hflagged, haddress, hmem⟩
        split
        · exact List.mem_append_right _ hbehind
        · exact hbehind

/-- The problems of a tree are its topmost ones. -/
theorem mem_problemsAt_iff : (address, u) ∈ t.problemsAt ↔ IsTopmostProblem t address u := by
  induction address generalizing t with
  | nil =>
    rw [isTopmostProblem_nil_iff, problemsAt_eq]
    split
    next h => simp [h, eq_comm]
    next h => simp [h, mem_problemsAtIn_iff]
  | cons k address ih =>
    rw [isTopmostProblem_cons_iff, problemsAt_eq]
    split
    next h => simp [h]
    next h => simp [h, mem_problemsAtIn_iff, ih]

mutual

/-- The problems of a tree are in document order. -/
theorem pairwise_problemsAt : ∀ t : SyntaxTree, t.problemsAt.Pairwise fun p q => p.1 < q.1
  | node i cs => by
    rw [problemsAt_eq]
    split
    · exact List.pairwise_singleton ..
    · exact pairwise_problemsAtIn 0 cs

theorem pairwise_problemsAtIn (k : Nat) : ∀ cs : List SyntaxTree,
    (problemsAtIn k cs).Pairwise fun p q => p.1 < q.1
  | [] => List.Pairwise.nil
  | c :: cs => by
    rw [problemsAtIn]
    split
    · refine List.pairwise_append.mpr ⟨List.pairwise_map.mpr ?_, pairwise_problemsAtIn (k + 1) cs, ?_⟩
      · exact (pairwise_problemsAt c).imp fun h => List.cons_lt_cons_iff.mpr (.inr ⟨rfl, h⟩)
      · intro p hp q hq
        obtain ⟨r, -, rfl⟩ := List.mem_map.mp hp
        obtain ⟨j, -, rest, -, -, hq, -⟩ := mem_problemsAtIn_iff.mp hq
        have hlt : k < k + 1 + j := by omega
        rw [hq]
        exact List.cons_lt_cons_iff.mpr (.inl hlt)
    · exact pairwise_problemsAtIn (k + 1) cs

end

mutual

theorem map_snd_problemsAt : ∀ t : SyntaxTree, t.problemsAt.map Prod.snd = t.problems
  | node i cs => by
    rw [problemsAt, problems]
    split
    · rfl
    · exact map_snd_problemsAtIn 0 cs

theorem map_snd_problemsAtIn (k : Nat) : ∀ cs : List SyntaxTree,
    (problemsAtIn k cs).map Prod.snd = problemsIn cs
  | [] => rfl
  | c :: cs => by
    rw [problemsAtIn, problemsIn, ← map_snd_problemsAt c, ← map_snd_problemsAtIn (k + 1) cs]
    split
    · simp
    · rfl

end

mutual

/-- A collection finds what is missing to the most problems that are collected. -/
theorem collect_eq (found : List SyntaxTree) : ∀ t : SyntaxTree,
    t.collect found = found ++ t.problems.take (maximumProblems - found.length)
  | node i cs => by
    rw [collect, problems]
    split
    next hfull => rw [Nat.sub_eq_zero_of_le hfull, List.take_zero, List.append_nil]
    next hfull =>
      split
      · obtain ⟨n, hn⟩ : ∃ n, maximumProblems - found.length = n + 1 :=
          Nat.exists_eq_add_one.mpr (by omega)
        rw [hn, List.take_succ_cons, List.take_nil]
      · exact collectIn_eq found cs

theorem collectIn_eq (found : List SyntaxTree) : ∀ cs : List SyntaxTree,
    collectIn found cs = found ++ (problemsIn cs).take (maximumProblems - found.length)
  | [] => by rw [collectIn, problemsIn, List.take_nil, List.append_nil]
  | c :: cs => by
    rw [collectIn, problemsIn]
    split
    · -- what the child adds lowers the number of problems that its siblings may add
      have hleft : maximumProblems - (c.collect found).length =
          maximumProblems - found.length - c.problems.length := by
        rw [collect_eq found c, List.length_append, List.length_take]
        omega
      rw [collectIn_eq (c.collect found) cs, hleft, collect_eq found c, List.take_append,
        List.append_assoc]
    · exact collectIn_eq found cs

end

/-- To stop early makes no difference for what is collected first. -/
theorem collect_nil_eq_take (t : SyntaxTree) :
    t.collect [] = t.problems.take maximumProblems := by
  rw [collect_eq, List.nil_append, List.length_nil, Nat.sub_zero]

mutual

/-- A flagged tree has a problem if every node of it with an error is a problem or has a flagged
child. -/
theorem problems_ne_nil : ∀ t : SyntaxTree, t.isFlagged = true →
    (∀ u, IsNodeOf t u → u.info.hasError = true →
      u.isProblem = true ∨ ∃ c ∈ u.children, c.isFlagged = true) → t.problems ≠ []
  | node i cs, hflagged, hnodes => by
    rw [problems]
    split
    · exact List.cons_ne_nil _ _
    next hproblem =>
      have hmissing : i.isMissing = false := by
        cases hm : i.isMissing <;> simp_all [isProblem]
      have herror : i.hasError = true := by simpa [isFlagged, hmissing] using hflagged
      rcases hnodes _ .root herror with h | hchild
      · exact absurd h hproblem
      · exact problemsIn_ne_nil cs hchild fun c hc u hu => hnodes u ((IsNodeOf.root.child hc).trans hu)

theorem problemsIn_ne_nil : ∀ cs : List SyntaxTree, (∃ c ∈ cs, c.isFlagged = true) →
    (∀ c ∈ cs, ∀ u, IsNodeOf c u → u.info.hasError = true →
      u.isProblem = true ∨ ∃ c ∈ u.children, c.isFlagged = true) → problemsIn cs ≠ []
  | [], hflagged, _ => by simp at hflagged
  | c :: cs, hflagged, hnodes => by
    rw [problemsIn]
    split
    next hc =>
      have hhead : c.problems ≠ [] := problems_ne_nil c hc (hnodes c List.mem_cons_self)
      exact fun h => hhead (List.append_eq_nil_iff.mp h).1
    next hc =>
      have htail : ∃ d ∈ cs, d.isFlagged = true := by simpa [hc] using hflagged
      exact problemsIn_ne_nil cs htail fun d hd => hnodes d (List.mem_cons_of_mem c hd)

end

end CodeStyle.SyntaxTree

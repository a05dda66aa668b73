import CodeStyle.Proofs.Text.Boundary
import CodeStyle.SyntaxTree.Basic

/-!
# Trees of a text

A tree fits a text if its nodes start and stop between characters of the text, and the children of
every node follow one another inside it. A tree that a parser makes of a text fits the text. What is
assumed of the root then holds of every node, since a child of a tree that fits fits as well.
-/
namespace CodeStyle.SyntaxTree

open Text

/-- A token of a grammar. -/
def token (kind : String) (start : Nat) : SyntaxTree :=
  node { kind := kind, isNamed := false, start := start, stop := start + kind.utf8ByteSize } []

/-- A node that a grammar gives a name to. -/
def named (kind : String) (field : Option String) (start stop : Nat) (children : List SyntaxTree) :
    SyntaxTree :=
  node { kind := kind, field := field, start := start, stop := stop } children

mutual

/-- Whether the ranges of a tree are ranges of a text, nested and in order. -/
def fits (text : List Char) : SyntaxTree → Bool
  | node i cs =>
    isBoundary text i.start && isBoundary text i.stop && fitsBetween text i.start i.stop cs

/-- Whether trees that follow one another fit a text between two offsets. -/
def fitsBetween (text : List Char) (start stop : Nat) : List SyntaxTree → Bool
  | [] => start ≤ stop
  | c :: cs => start ≤ c.info.start && fits text c && fitsBetween text c.info.stop stop cs

end

/-- The nodes of a tree, named or not. -/
inductive IsNodeOf (root : SyntaxTree) : SyntaxTree → Prop
  | root : IsNodeOf root root
  | child {t c : SyntaxTree} (h : IsNodeOf root t) (hc : c ∈ t.children) : IsNodeOf root c

variable {text : List Char}

theorem fits_iff {t : SyntaxTree} :
    fits text t = true ↔ isBoundary text t.info.start = true ∧ isBoundary text t.info.stop = true ∧
      fitsBetween text t.info.start t.info.stop t.children = true := by
  cases t with
  | node i cs => simp [fits, and_assoc]

theorem fitsBetween_cons_iff {start stop : Nat} {c : SyntaxTree} {cs : List SyntaxTree} :
    fitsBetween text start stop (c :: cs) = true ↔
      start ≤ c.info.start ∧ fits text c = true ∧ fitsBetween text c.info.stop stop cs = true := by
  simp [fitsBetween, and_assoc]

mutual

theorem start_le_stop : ∀ {t : SyntaxTree}, fits text t = true → t.info.start ≤ t.info.stop
  | node _ _, h => le_of_fitsBetween (fits_iff.mp h).2.2

theorem le_of_fitsBetween : ∀ {cs : List SyntaxTree} {start stop : Nat},
    fitsBetween text start stop cs = true → start ≤ stop
  | [], _, _, h => by simpa [fitsBetween] using h
  | c :: cs, start, stop, h => by
    obtain ⟨hstart, hc, hcs⟩ := fitsBetween_cons_iff.mp h
    have hfirst := start_le_stop hc
    have hrest := le_of_fitsBetween hcs
    omega

end

theorem fits_of_fitsBetween {cs : List SyntaxTree} {start stop : Nat}
    (h : fitsBetween text start stop cs = true) {c : SyntaxTree} (hc : c ∈ cs) :
    fits text c = true ∧ start ≤ c.info.start ∧ c.info.stop ≤ stop := by
  induction cs generalizing start with
  | nil => exact absurd hc List.not_mem_nil
  | cons d cs ih =>
    obtain ⟨hstart, hd, hcs⟩ := fitsBetween_cons_iff.mp h
    rcases List.mem_cons.mp hc with rfl | hc
    · exact ⟨hd, hstart, le_of_fitsBetween hcs⟩
    · obtain ⟨hfits, hfirst, hlast⟩ := ih hcs hc
      have hle := start_le_stop hd
      exact ⟨hfits, by omega, hlast⟩

/-- A child of a tree that fits a text fits it and stands inside the tree. -/
theorem fits_of_mem_children {t c : SyntaxTree} (h : fits text t = true) (hc : c ∈ t.children) :
    fits text c = true ∧ t.info.start ≤ c.info.start ∧ c.info.stop ≤ t.info.stop :=
  fits_of_fitsBetween (fits_iff.mp h).2.2 hc

theorem mem_children_of_field? {t c : SyntaxTree} {name : String} (h : t.field? name = some c) :
    c ∈ t.children :=
  List.mem_of_find?_eq_some h

theorem mem_children_of_mem_namedChildren {t c : SyntaxTree} (h : c ∈ t.namedChildren) :
    c ∈ t.children :=
  (List.mem_filter.mp h).1

theorem mem_children_of_firstChild? {t c : SyntaxTree} {kinds : List String}
    (h : t.firstChild? kinds = some c) : c ∈ t.children :=
  mem_children_of_mem_namedChildren (List.mem_of_find?_eq_some h)

theorem IsNodeOf.trans {t u v : SyntaxTree} (hu : IsNodeOf t u) (hv : IsNodeOf u v) :
    IsNodeOf t v := by
  induction hv with
  | root => exact hu
  | child _ hc ih => exact ih.child hc

/-- What holds of a tree and of all nodes of its children holds of all its nodes. -/
theorem forall_isNodeOf_node_iff {i : NodeInfo} {cs : List SyntaxTree} {P : SyntaxTree → Prop} :
    (∀ u, IsNodeOf (node i cs) u → P u) ↔ P (node i cs) ∧ ∀ c ∈ cs, ∀ u, IsNodeOf c u → P u := by
  constructor
  · intro h
    exact ⟨h _ .root, fun c hc u hu => h u ((IsNodeOf.root.child hc).trans hu)⟩
  · rintro ⟨hroot, hchildren⟩ u hu
    have hnode : u = node i cs ∨ ∃ c ∈ cs, IsNodeOf c u := by
      induction hu with
      | root => exact .inl rfl
      | @child t v _ hv ih =>
        obtain rfl | ⟨c, hc, ht⟩ := ih
        · exact .inr ⟨v, hv, .root⟩
        · exact .inr ⟨c, hc, ht.child hv⟩
    obtain rfl | ⟨c, hc, hu⟩ := hnode
    · exact hroot
    · exact hchildren c hc u hu

/-- All nodes of a tree that fits a text fit it. -/
theorem IsNodeOf.fits {root t : SyntaxTree} (ht : IsNodeOf root t) (h : root.fits text = true) :
    t.fits text = true := by
  induction ht with
  | root => exact h
  | child _ hc ih => exact (fits_of_mem_children ih hc).1

/-- No node of a tree that fits a text starts in front of the tree. -/
theorem IsNodeOf.start_le {root t : SyntaxTree} (ht : IsNodeOf root t)
    (h : root.fits text = true) : root.info.start ≤ t.info.start := by
  induction ht with
  | root => exact Nat.le_refl _
  | child hu hc ih => exact Nat.le_trans ih (fits_of_mem_children (hu.fits h) hc).2.1

end CodeStyle.SyntaxTree

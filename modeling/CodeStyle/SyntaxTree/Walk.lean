import CodeStyle.SyntaxTree.Basic

/-!
# Walks through a tree

`preorder` lists the nodes that named children lead to, each before what is below it. `visitAll`
visits the same nodes with a stack of trees still to be visited, so that a deep tree needs no deep
recursion, and stops at the first visit that fails. `walk` collects what the visits find.
-/
namespace CodeStyle.SyntaxTree

mutual

/-- The nodes that named children lead to, in the order of the text. -/
def preorder : SyntaxTree → List SyntaxTree
  | node i cs => node i cs :: preorderNamed cs

/-- The nodes below the named ones of some children. -/
def preorderNamed : List SyntaxTree → List SyntaxTree
  | [] => []
  | c :: cs => if c.info.isNamed then preorder c ++ preorderNamed cs else preorderNamed cs

end

mutual

def size : SyntaxTree → Nat
  | node _ cs => sizeAll cs + 1

def sizeAll : List SyntaxTree → Nat
  | [] => 0
  | c :: cs => size c + sizeAll cs

end

theorem sizeAll_append (a b : List SyntaxTree) : sizeAll (a ++ b) = sizeAll a + sizeAll b := by
  induction a with
  | nil => simp [sizeAll]
  | cons c a ih => simp [sizeAll, ih, Nat.add_assoc]

theorem sizeAll_filter_le (p : SyntaxTree → Bool) (cs : List SyntaxTree) :
    sizeAll (cs.filter p) ≤ sizeAll cs := by
  induction cs with
  | nil => simp [sizeAll]
  | cons c cs ih => simp only [List.filter_cons]; split <;> simp only [sizeAll] <;> omega

theorem sizeAll_namedChildren_lt (t : SyntaxTree) : sizeAll t.namedChildren < size t := by
  cases t with
  | node i cs =>
    have := sizeAll_filter_le (·.info.isNamed) cs
    simp only [namedChildren, children_node, size]
    omega

theorem sizeAll_reverse (cs : List SyntaxTree) : sizeAll cs.reverse = sizeAll cs := by
  induction cs with
  | nil => rfl
  | cons c cs ih => simp [sizeAll_append, sizeAll, ih, Nat.add_comm]

/-- A visit of a node. It may change a state and it may fail; what it has changed by then stays
changed. -/
abbrev Visit (ε σ : Type) := SyntaxTree → EStateM ε σ Unit

variable {ε σ α : Type}

/-- Visits the trees on a stack and all that named children lead to from them, up to the first visit
that fails. The children of a node go onto the stack from the last to the first, so that the first
is the next one to be visited. -/
def visitStack (visit : Visit ε σ) (stack : Array SyntaxTree) : EStateM ε σ Unit :=
  match _h : stack.back? with
  | none => pure ()
  | some t => do
    visit t
    visitStack visit (stack.pop ++ t.namedChildren.reverse)
termination_by sizeAll stack.toList
decreasing_by
  obtain ⟨below, rfl⟩ := Array.back?_eq_some_iff.mp _h
  have := sizeAll_namedChildren_lt t
  simp [sizeAll_append, sizeAll, sizeAll_reverse, this]

/-- Visits a tree node by node, up to the first visit that fails. -/
def visitAll (visit : Visit ε σ) (t : SyntaxTree) : EStateM ε σ Unit := visitStack visit #[t]

/-- The visit that adds what is found at a node to what has been found before. -/
def collecting (find : SyntaxTree → Except ε (List α)) : Visit ε (List α) := fun t found =>
  match find t with
  | .ok more => .ok () (found ++ more)
  | .error e => .error e found

/-- The state that a run leaves behind, unless it fails. -/
def stateOrError : EStateM.Result ε σ Unit → Except ε σ
  | .ok _ s => .ok s
  | .error e _ => .error e

/-- Visits a tree node by node and collects what is found at the nodes. -/
def walk (find : SyntaxTree → Except ε (List α)) (t : SyntaxTree) : Except ε (List α) :=
  stateOrError ((t.visitAll (collecting find)).run [])

end CodeStyle.SyntaxTree

import CodeStyle.Proofs.Except
import CodeStyle.Proofs.SyntaxTree.Fit
import CodeStyle.Rule.Layout

/-!
# Heads of statements

A layout is judged by heads, each of which is quoted from the start of a node to the start of its
body. Clauses behind a tried block are looked at as long as what comes before them is laid out well.
A node is judged if all heads that are looked at can be quoted, and otherwise the error is that of a
quotation.
-/
namespace CodeStyle.Layout

/-- What comes later if something is laid out well. -/
def ifBraced {α : Type} (result : Except CheckError Bool) (later : List α) : List α :=
  match result with
  | .ok true => later
  | _ => []

/-- The head of a node with a body. -/
def headOf (t : SyntaxTree) (body : Option SyntaxTree) : List (SyntaxTree × SyntaxTree) :=
  body.toList.map fun b => (t, b)

/-- The heads of clauses that are looked at, as nodes with their bodies. -/
def clauseHeads (quote : Quote) (s : Source) :
    (before : Option SyntaxTree) → List SyntaxTree → List (SyntaxTree × SyntaxTree)
  | _, [] => []
  | before, t :: rest =>
    match clause? t with
    | none => clauseHeads quote s before rest
    | some (head, body) =>
      if isAttached s before t then
        headOf t body ++ ifBraced (isBraced quote s head t body) (clauseHeads quote s (some t) rest)
      else []

/-- The heads of a node that are looked at. -/
def heads (quote : Quote) (s : Source) (t : SyntaxTree) : Layout → List (SyntaxTree × SyntaxTree)
  | ifElse => headOf t (t.field? "consequence")
  | tryCatch => headOf t (t.field? "body") ++
      ifBraced (isBraced quote s (plainHead "try") t (t.field? "body"))
        (clauseHeads quote s (t.field? "body") t.namedChildren)
  | emptyBlock => []
  | _ => headOf t (t.field? "body")

variable {quote : Quote} {s : Source}

/-- Whether the head of a node up to a body can be quoted. -/
def CanQuote (quote : Quote) (s : Source) (p : SyntaxTree × SyntaxTree) : Prop :=
  ∃ text, quote ⟨s.start p.1, s.start p.2⟩ = .ok text

@[simp] theorem mem_headOf {t : SyntaxTree} {body : Option SyntaxTree}
    {p : SyntaxTree × SyntaxTree} : p ∈ headOf t body ↔ p.1 = t ∧ body = some p.2 := by
  obtain ⟨u, b⟩ := p
  cases body <;> simp [headOf, eq_comm]

@[simp] theorem mem_ifBraced {α : Type} {result : Except CheckError Bool} {later : List α} {a : α} :
    a ∈ ifBraced result later ↔ result = .ok true ∧ a ∈ later := by
  unfold ifBraced
  split <;> simp_all

theorem exists_isBraced_eq_ok_iff {head : Regex} {t : SyntaxTree} {body : Option SyntaxTree} :
    (∃ ok, isBraced quote s head t body = .ok ok) ↔ ∀ p ∈ headOf t body, CanQuote quote s p := by
  cases body with
  | none => simp [isBraced, headOf]
  | some b => simp [isBraced, headOf, CanQuote, Except.exists_map_eq_ok_iff]

theorem exists_ok_iff_of_ifBraced {result later : Except CheckError Bool}
    {first rest : List (SyntaxTree × SyntaxTree)}
    (hfirst : (∃ ok, result = .ok ok) ↔ ∀ p ∈ first, CanQuote quote s p)
    (hrest : (∃ ok, later = .ok ok) ↔ ∀ p ∈ rest, CanQuote quote s p) :
    (∃ ok, (match result with
      | .ok true => later
      | result => result) = .ok ok) ↔
      ∀ p ∈ first ++ ifBraced result rest, CanQuote quote s p := by
  rw [List.forall_mem_append, ← hfirst]
  cases result with
  | error e => simp
  | ok ok => cases ok <;> simp [hrest]

theorem exists_areClausesBraced_eq_ok_iff {ts : List SyntaxTree} {before : Option SyntaxTree} :
    (∃ ok, areClausesBraced quote s before ts = .ok ok) ↔
      ∀ p ∈ clauseHeads quote s before ts, CanQuote quote s p := by
  induction ts generalizing before with
  | nil => simp [areClausesBraced, clauseHeads]
  | cons t ts ih =>
    rw [areClausesBraced, clauseHeads]
    cases hclause : clause? t with
    | none => exact ih
    | some clause =>
      by_cases hattached : isAttached s before t = true
      · simp only [hattached, if_true]
        exact exists_ok_iff_of_ifBraced exists_isBraced_eq_ok_iff ih
      · simp [hattached]

/-- A node is judged if every head that is looked at can be quoted. -/
theorem exists_isWellLaid_eq_ok_iff {language : Language} {t : SyntaxTree} {l : Layout} :
    (∃ ok, isWellLaid language quote s t l = .ok ok) ↔
      ∀ p ∈ l.heads quote s t, CanQuote quote s p := by
  cases l with
  | forLoop => exact exists_isBraced_eq_ok_iff
  | ifElse => exact Except.exists_map_eq_ok_iff.trans exists_isBraced_eq_ok_iff
  | whileLoop => exact exists_isBraced_eq_ok_iff
  | switchCases => exact exists_isBraced_eq_ok_iff
  | tryCatch =>
    exact exists_ok_iff_of_ifBraced exists_isBraced_eq_ok_iff exists_areClausesBraced_eq_ok_iff
  | emptyBlock => simp [isWellLaid, heads]

section Errors

variable {e : CheckError}

theorem exists_span_of_isBraced_eq_error {head : Regex} {t : SyntaxTree} {body : Option SyntaxTree}
    (h : isBraced quote s head t body = .error e) : ∃ span, quote span = .error e := by
  cases body with
  | none => simp [isBraced] at h
  | some b => exact ⟨_, Except.map_eq_error_iff.mp h⟩

theorem exists_span_of_areClausesBraced_eq_error {ts : List SyntaxTree} {before : Option SyntaxTree}
    (h : areClausesBraced quote s before ts = .error e) : ∃ span, quote span = .error e := by
  induction ts generalizing before with
  | nil => simp [areClausesBraced] at h
  | cons t ts ih =>
    rw [areClausesBraced] at h
    split at h
    · exact ih h
    split at h
    · split at h
      · exact ih h
      · exact exists_span_of_isBraced_eq_error h
    · contradiction

/-- The judgement of a node fails only where a quotation does. -/
theorem exists_span_of_isWellLaid_eq_error {language : Language} {t : SyntaxTree} {l : Layout}
    (h : isWellLaid language quote s t l = .error e) : ∃ span, quote span = .error e := by
  cases l with
  | forLoop => exact exists_span_of_isBraced_eq_error h
  | ifElse => exact exists_span_of_isBraced_eq_error (Except.map_eq_error_iff.mp h)
  | whileLoop => exact exists_span_of_isBraced_eq_error h
  | switchCases => exact exists_span_of_isBraced_eq_error h
  | tryCatch =>
    rw [isWellLaid] at h
    split at h
    · exact exists_span_of_areClausesBraced_eq_error h
    · exact exists_span_of_isBraced_eq_error h
  | emptyBlock => simp [isWellLaid] at h

end Errors

section Nodes

variable {p : SyntaxTree × SyntaxTree}

theorem mem_children_of_clause? {t b : SyntaxTree} {head : Regex}
    (h : clause? t = some (head, some b)) : b ∈ t.children := by
  unfold clause? at h
  split at h
  · exact SyntaxTree.mem_children_of_field? (congrArg Prod.snd (Option.some.inj h))
  · exact SyntaxTree.mem_children_of_firstChild? (congrArg Prod.snd (Option.some.inj h))
  · contradiction

theorem mem_of_mem_clauseHeads {ts : List SyntaxTree} {before : Option SyntaxTree}
    (h : p ∈ clauseHeads quote s before ts) : p.1 ∈ ts ∧ p.2 ∈ p.1.children := by
  induction ts generalizing before with
  | nil => simp [clauseHeads] at h
  | cons t ts ih =>
    rw [clauseHeads] at h
    split at h
    · exact (ih h).imp_left (List.mem_cons_of_mem t)
    · rename_i head body hclause
      split at h
      · rw [List.mem_append, mem_headOf, mem_ifBraced] at h
        rcases h with ⟨rfl, rfl⟩ | ⟨-, h⟩
        · exact ⟨List.mem_cons_self, mem_children_of_clause? hclause⟩
        · exact (ih h).imp_left (List.mem_cons_of_mem t)
      · simp at h

/-- The heads of a node are those of the node or of a child. -/
theorem isNodeOf_of_mem_heads {l : Layout} {t : SyntaxTree} (h : p ∈ l.heads quote s t) :
    SyntaxTree.IsNodeOf t p.1 ∧ p.2 ∈ p.1.children := by
  have hhead : ∀ name, p ∈ headOf t (t.field? name) →
      SyntaxTree.IsNodeOf t p.1 ∧ p.2 ∈ p.1.children := fun name hp => by
    obtain ⟨hnode, hbody⟩ := mem_headOf.mp hp
    rw [hnode]
    exact ⟨.root, SyntaxTree.mem_children_of_field? hbody⟩
  cases l with
  | tryCatch =>
    rw [heads, List.mem_append, mem_ifBraced] at h
    rcases h with h | ⟨-, h⟩
    · exact hhead _ h
    · obtain ⟨hnode, hbody⟩ := mem_of_mem_clauseHeads h
      exact ⟨.child .root (SyntaxTree.mem_children_of_mem_namedChildren hnode), hbody⟩
  | emptyBlock => simp [heads] at h
  | forLoop => exact hhead _ h
  | ifElse => exact hhead _ h
  | whileLoop => exact hhead _ h
  | switchCases => exact hhead _ h

end Nodes

end CodeStyle.Layout

import CodeStyle.Proofs.Rule.Braces

/-!
# Clauses behind a tried block

A statement that tries a block is laid out well if the block and all clauses behind it have heads of
their forms and bodies in braces, and each clause starts one column behind the end of the part in
front of it. Columns count bytes, so what stands between two parts is then a single byte, which need
not be a space.
-/
namespace CodeStyle

namespace SyntaxTree

variable {text : List Char}

theorem pairwise_of_fitsBetween {cs : List SyntaxTree} {start stop : Nat}
    (h : fitsBetween text start stop cs = true) :
    cs.Pairwise fun a b => a.info.stop ≤ b.info.start := by
  induction cs generalizing start with
  | nil => exact .nil
  | cons c cs ih =>
    obtain ⟨-, -, hcs⟩ := fitsBetween_cons_iff.mp h
    refine .cons ?_ (ih hcs)
    intro b hb
    exact (fits_of_fitsBetween hcs hb).2.1

/-- In a tree that fits its text every named child ends before those behind it start. -/
theorem pairwise_namedChildren {t : SyntaxTree} (h : t.fits text = true) :
    t.namedChildren.Pairwise fun a b => a.info.stop ≤ b.info.start :=
  (pairwise_of_fitsBetween (fits_iff.mp h).2.2).filter _

end SyntaxTree

namespace Layout

open Regex Text

variable {s : Source} {t b c body before : SyntaxTree} {head : Regex}

section Gaps

/-- A gap of one byte within a line. -/
def IsByteGap (gap : List Char) : Prop := ∃ x, gap = [x] ∧ x.utf8Size = 1 ∧ x ≠ '\n'

/-- The gap between the end of a node and the start of another. -/
def HasGap (s : Source) (p : List Char → Prop) (before after : SyntaxTree) : Prop :=
  ∃ gap, slice? s.text before.info.stop after.info.start = some gap ∧ p gap

theorem byteLength_eq_one_iff {cs : List Char} :
    byteLength cs = 1 ↔ ∃ x, cs = [x] ∧ x.utf8Size = 1 := by
  constructor
  · intro h
    cases cs with
    | nil => contradiction
    | cons x cs =>
      have hx := x.utf8Size_pos
      rw [byteLength_cons] at h
      obtain rfl : cs = [] := byteLength_eq_zero_iff.mp (by omega)
      exact ⟨x, rfl, by omega⟩
  · intro h
    obtain ⟨x, rfl, hx⟩ := h
    rw [byteLength_cons, byteLength_nil, hx]

/-- A clause is attached if one byte of a line stands in front of it. -/
theorem isAttached_iff (hle : before.info.stop ≤ c.info.start)
    (hbefore : isBoundary s.text before.info.stop = true)
    (hstart : isBoundary s.text c.info.start = true) :
    isAttached s (some before) c = true ↔ HasGap s IsByteGap before c := by
  obtain ⟨piece, hpiece⟩ := exists_piece hle hbefore hstart
  have hgap : HasGap s IsByteGap before c ↔ IsByteGap piece := by
    rw [HasGap, hpiece.slice?_eq]
    simp
  rw [hgap]
  simp only [isAttached, Option.any_some, Source.stop, Source.start, stopPosition, startPosition,
    Bool.and_eq_true, beq_iff_eq]
  cases hpiece with
  | @within front row piece rest htext hfront hrow hpiece hstopEq hstartEq =>
    rw [htext, hstartEq, hstopEq, placeAt_append hfront hrow, placeAt_within hfront hrow hpiece]
    have hone : byteLength row + 2 = byteLength row + byteLength piece + 1 ↔
        byteLength piece = 1 := by omega
    rw [hone, byteLength_eq_one_iff]
    constructor
    · intro h
      obtain ⟨x, rfl, hx⟩ := h.2
      exact ⟨x, rfl, hx, fun hfeed => hpiece (hfeed ▸ List.mem_cons_self)⟩
    · intro h
      obtain ⟨x, rfl, hx, -⟩ := h
      exact ⟨rfl, x, rfl, hx⟩
  | @across front row first inner last rest htext hfront hrow hfirst hinner hlast hstopEq
      hstartEq =>
    rw [htext, hstartEq, hstopEq, placeAt_append hfront hrow,
      placeAt_across hfront hrow hfirst hinner hlast]
    constructor
    · intro h
      have hrows := h.1
      simp only at hrows
      omega
    · intro h
      obtain ⟨x, hx, -, hfeed⟩ := h
      have hmem : '\n' ∈ [x] := by simp [← hx]
      exact absurd (List.mem_singleton.mp hmem).symm hfeed

end Gaps

section Shape

/-- A node that opens with a visible byte and has a body that opens with a brace. -/
structure HasOpenBody (s : Source) (t body : SyntaxTree) : Prop where
  start : isVisibleByte s.text t.info.start = true
  brace : ∃ rest, s.textOf body = '\x7b' :: rest

/-- The body of a clause. -/
def clauseBody? (c : SyntaxTree) : Option SyntaxTree := (clause? c).bind (·.2)

/-- A clause as a parser builds it, which ends with its body. -/
structure IsClause (s : Source) (c body : SyntaxTree) : Prop extends HasOpenBody s c body where
  hasBody : clauseBody? c = some body
  stop : c.info.stop = body.info.stop

/-- The clauses behind a tried block. -/
def clauses (t : SyntaxTree) : List SyntaxTree :=
  t.namedChildren.filter fun c => (clause? c).isSome

/-- A statement that tries a block, as a parser builds it: all clauses stand behind the block. -/
structure IsTry (s : Source) (t body : SyntaxTree) : Prop extends HasOpenBody s t body where
  kind : t.kind = "try_statement"
  hasBody : t.field? "body" = some body
  order : ∃ front behind, t.namedChildren = front ++ body :: behind ∧
    ∀ c ∈ front ++ [body], clause? c = none
  areClauses : ∀ c ∈ clauses t, ∃ b, IsClause s c b

theorem IsTry.sublist_namedChildren (h : IsTry s t body) :
    (body :: Layout.clauses t).Sublist t.namedChildren := by
  obtain ⟨front, behind, hchildren, hfront⟩ := h.order
  have hnone : (front ++ [body]).filter (fun c => (clause? c).isSome) = [] := by
    rw [List.filter_eq_nil_iff]
    intro c hc
    simp [hfront c hc]
  have hregroup : front ++ body :: behind = (front ++ [body]) ++ behind := by simp
  have hclauses : Layout.clauses t = behind.filter fun c => (clause? c).isSome := by
    rw [Layout.clauses, hchildren, hregroup, List.filter_append, hnone, List.nil_append]
  rw [hclauses, hchildren]
  exact (List.filter_sublist.cons_cons body).trans (List.sublist_append_right front _)

theorem isVisibleByte_of_textOf {rest : List Char} (h : s.textOf b = '\x7b' :: rest) :
    isVisibleByte s.text b.info.start = true := by
  rw [Source.textOf] at h
  cases hslice : slice? s.text b.info.start b.info.stop with
  | none =>
    rw [hslice] at h
    contradiction
  | some piece =>
    rw [hslice, Option.getD_some] at h
    obtain ⟨front, behind, htext, hstart, -⟩ := slice?_eq_some_iff.mp hslice
    have hbrace : startsVisibly ('\x7b' :: (rest ++ behind)) = true := by
      simp [startsVisibly, isBlank, Unicode.CodeSet.contains, changes_whiteSpace,
        Unicode.countLe, Char.utf8Size]
    rw [isVisibleByte, htext, ← hstart, dropBytes?_append, h]
    exact hbrace

theorem clauseBody?_eq_some_iff :
    clauseBody? c = some b ↔ ∃ head, clause? c = some (head, some b) := by
  rw [clauseBody?, Option.bind_eq_some_iff]
  constructor
  · intro h
    obtain ⟨⟨head, body⟩, hclause, hbody⟩ := h
    exact ⟨head, by rw [hclause, ← hbody]⟩
  · intro h
    obtain ⟨head, hclause⟩ := h
    exact ⟨_, hclause, rfl⟩

end Shape

section Heads

/-- What stands in front of the body of a clause, its brace included, if it has its form. -/
def IsClauseHead (c : SyntaxTree) (text : List Char) : Prop :=
  (c.kind = "catch_clause" ∧ ∃ condition, IsCondition condition ∧
    text = "catch (".toList ++ (condition ++ ") \x7b".toList)) ∨
  (c.kind = "finally_clause" ∧ text = "finally \x7b".toList)

/-- The pattern for a clause is that of the heads of its form. -/
theorem isMatch_clauseHead_iff {body : Option SyntaxTree} (h : clause? c = some (head, body)) :
    head ∈ headPatterns ∧ ∀ text, isMatch head text = true ↔ IsClauseHead c text := by
  unfold clause? at h
  split at h
  · rename_i hkind
    obtain ⟨rfl, -⟩ := Prod.mk.inj (Option.some.inj h)
    refine ⟨by simp [headPatterns], fun text => isMatch_conditionHead_iff.trans ?_⟩
    simp [IsClauseHead, hkind]
  · rename_i hkind
    obtain ⟨rfl, -⟩ := Prod.mk.inj (Option.some.inj h)
    refine ⟨by simp [headPatterns], fun text => isMatch_plainHead_iff.trans ?_⟩
    simp [IsClauseHead, hkind]
  · contradiction

/-- A range up to the first byte of a body that has a text of some form. -/
def HasHeadText (s : Source) (p : List Char → Prop) (t body : SyntaxTree) : Prop :=
  ∃ text, slice? s.text t.info.start (body.info.start + 1) = some text ∧ p text

end Heads

section Judgement

variable {disk : Disk} {path : String}

/-- Two texts that agree unless both go on behind the end of a line are heads or not alike. -/
theorem isMatch_head_eq (hhead : head ∈ headPatterns) {a b : List Char}
    (h : a = b ∨ '\n' ∈ a ∧ '\n' ∈ b) : isMatch head a = isMatch head b := by
  rcases h with rfl | ⟨ha, hb⟩
  · rfl
  · have hnone {l : List Char} (hl : '\n' ∈ l) : isMatch head l = false := by
      refine Bool.eq_false_iff.mpr ?_
      intro hmatch
      exact not_mem_of_isMatch_head hhead hmatch hl
    rw [hnone ha, hnone hb]

/-- A part with an open body is judged by its head in the text of the tree. -/
theorem exists_isBraced_eq_ok (hs : disk.source path = .ok s) (hfits : s.tree.fits s.text = true)
    (ht : s.tree.IsNodeOf t) (hbody : t.IsNodeOf body) (h : HasOpenBody s t body)
    (hhead : head ∈ headPatterns) {p : List Char → Prop}
    (hp : ∀ text, isMatch head text = true ↔ p text) :
    ∃ ok, isBraced (disk.excerpt path) s head t (some body) = .ok ok ∧
      (ok = true ↔ HasHeadText s p t body ∧ InBraces (s.textOf body)) := by
  have hnode := ht.fits hfits
  obtain ⟨rest, hbrace⟩ := h.brace
  obtain ⟨excerpt, text, hexcerpt, hslice, heq⟩ :=
    Excerpt.exists_ofText_eq_ok_of_isLineByte path (hbody.start_le hnode)
      (SyntaxTree.fits_iff.mp hnode).1 (SyntaxTree.fits_iff.mp (hbody.fits hnode)).1
      (isInLineEnd_of_isVisibleByte h.start)
      (isLineByte_of_isVisibleByte (isVisibleByte_of_textOf hbrace))
  refine ⟨isMatch head excerpt && isMatch braced (s.textOf body), ?_, ?_⟩
  · rw [isBraced, Disk.excerpt_eq_ofText hs, Source.start, Source.start, hexcerpt, Except.map_ok]
  · rw [isMatch_head_eq hhead heq, Bool.and_eq_true, isMatch_braced_iff, hp, HasHeadText, hslice]
    simp

/-- A clause that reads as it should, with its body in braces. -/
def IsTidyClause (s : Source) (c : SyntaxTree) : Prop :=
  ∃ b, clauseBody? c = some b ∧ HasHeadText s (IsClauseHead c) c b ∧ InBraces (s.textOf b)

/-- The bodies and the clauses right behind them. -/
def joints (body : SyntaxTree) (cs : List SyntaxTree) : List (SyntaxTree × SyntaxTree) :=
  (body :: cs.filterMap clauseBody?).zip cs

theorem joints_cons {cs : List SyntaxTree} (hb : clauseBody? c = some b) :
    joints body (c :: cs) = (body, c) :: joints b cs := by
  rw [joints, List.filterMap_cons_some hb, List.zip_cons_cons, joints]

/-- Nodes that are no clauses make no difference. -/
theorem areClausesBraced_eq_filter {quote : Quote} {before : Option SyntaxTree}
    {ts : List SyntaxTree} : areClausesBraced quote s before ts =
      areClausesBraced quote s before (ts.filter fun c => (clause? c).isSome) := by
  induction ts generalizing before with
  | nil => rfl
  | cons t ts ih =>
    cases hclause : clause? t with
    | none =>
      have hother : ¬ (clause? t).isSome = true := by simp [hclause]
      rw [List.filter_cons_of_neg (p := fun c => (clause? c).isSome) hother, ← ih]
      simp only [areClausesBraced, hclause]
    | some clause =>
      have hsome : (clause? t).isSome = true := by simp [hclause]
      rw [List.filter_cons_of_pos (p := fun c => (clause? c).isSome) hsome]
      simp only [areClausesBraced, hclause, ih]

/-- Clauses are judged one behind the other: each is to be attached to the part in front of it, and
to be laid out well itself. -/
theorem exists_areClausesBraced_eq_ok (hs : disk.source path = .ok s)
    (hfits : s.tree.fits s.text = true) {cs : List SyntaxTree}
    (hclauses : ∀ c ∈ cs, s.tree.IsNodeOf c ∧ ∃ b, IsClause s c b)
    (hbefore : isBoundary s.text before.info.stop = true)
    (hstop : before.info.stop = body.info.stop)
    (horder : (before :: cs).Pairwise fun a b => a.info.stop ≤ b.info.start) :
    ∃ ok, areClausesBraced (disk.excerpt path) s (some before) cs = .ok ok ∧
      (ok = true ↔ (∀ p ∈ joints body cs, HasGap s IsByteGap p.1 p.2) ∧
        ∀ c ∈ cs, IsTidyClause s c) := by
  induction cs generalizing before body with
  | nil => exact ⟨true, rfl, by simp [joints]⟩
  | cons c cs ih =>
    obtain ⟨⟨hc, b, hclause⟩, hothers⟩ := List.forall_mem_cons.mp hclauses
    obtain ⟨hbehind, hordered⟩ := List.pairwise_cons.mp horder
    obtain ⟨head, hform⟩ := clauseBody?_eq_some_iff.mp hclause.hasBody
    obtain ⟨hhead, hp⟩ := isMatch_clauseHead_iff hform
    have hfit := SyntaxTree.fits_iff.mp (hc.fits hfits)
    have hattached := isAttached_iff (hbehind c List.mem_cons_self) hbefore hfit.1
    have hgap : HasGap s IsByteGap before c ↔ HasGap s IsByteGap body c := by
      rw [HasGap, HasGap, hstop]
    obtain ⟨first, hfirst, hfirstIff⟩ := exists_isBraced_eq_ok hs hfits hc
      (.child .root (mem_children_of_clause? hform)) hclause.toHasOpenBody hhead hp
    obtain ⟨rest, hrest, hrestIff⟩ := ih hothers hfit.2.1 hclause.stop hordered
    have htidy : IsTidyClause s c ↔ first = true := by
      rw [hfirstIff, IsTidyClause, hclause.hasBody]
      simp
    rw [joints_cons hclause.hasBody, List.forall_mem_cons, List.forall_mem_cons, ← hgap,
      ← hattached, htidy]
    simp only [areClausesBraced, hform, hfirst]
    cases hjoined : isAttached s (some before) c with
    | false => exact ⟨false, rfl, by simp⟩
    | true =>
      cases first with
      | false => exact ⟨false, rfl, by simp⟩
      | true => exact ⟨rest, hrest, by simp [hrestIff]⟩

/-- A statement that tries a block in the right layout: its head and those of its clauses read as
they should, all bodies are in braces, and the gaps between the parts are of some form. -/
structure IsTidyTry (s : Source) (p : List Char → Prop) (t body : SyntaxTree) : Prop where
  head : slice? s.text t.info.start (body.info.start + 1) = some "try \x7b".toList
  braces : InBraces (s.textOf body)
  gaps : ∀ joint ∈ joints body (clauses t), HasGap s p joint.1 joint.2
  tidyClauses : ∀ c ∈ clauses t, IsTidyClause s c

theorem IsTidyTry.imp {p q : List Char → Prop} (h : IsTidyTry s p t body)
    (himp : ∀ joint ∈ joints body (clauses t), HasGap s p joint.1 joint.2 →
      HasGap s q joint.1 joint.2) : IsTidyTry s q t body where
  head := h.head
  braces := h.braces
  gaps := fun joint hjoint => himp joint hjoint (h.gaps joint hjoint)
  tidyClauses := h.tidyClauses

/-- A statement that tries a block is judged by its text. -/
theorem exists_isWellLaid_tryCatch_eq_ok {language : Language} (hs : disk.source path = .ok s)
    (hfits : s.tree.fits s.text = true) (ht : s.tree.IsNodeOf t) (h : IsTry s t body) :
    ∃ ok, isWellLaid language (disk.excerpt path) s t .tryCatch = .ok ok ∧
      (ok = true ↔ IsTidyTry s IsByteGap t body) := by
  have hbody : t.IsNodeOf body := .child .root (SyntaxTree.mem_children_of_field? h.hasBody)
  have hhead : plainHead "try" ∈ headPatterns := by simp [headPatterns]
  obtain ⟨first, hfirst, hfirstIff⟩ := exists_isBraced_eq_ok hs hfits ht hbody h.toHasOpenBody hhead
    fun text => isMatch_plainHead_iff
  have hnodes : ∀ c ∈ clauses t, s.tree.IsNodeOf c ∧ ∃ b, IsClause s c b := by
    intro c hc
    have hchild := SyntaxTree.mem_children_of_mem_namedChildren (List.mem_filter.mp hc).1
    exact ⟨.child ht hchild, h.areClauses c hc⟩
  have horder : (body :: clauses t).Pairwise fun a b => a.info.stop ≤ b.info.start :=
    (SyntaxTree.pairwise_namedChildren (ht.fits hfits)).sublist h.sublist_namedChildren
  have hstop := (SyntaxTree.fits_iff.mp ((ht.trans hbody).fits hfits)).2.1
  obtain ⟨rest, hrest, hrestIff⟩ := exists_areClausesBraced_eq_ok hs hfits hnodes hstop rfl horder
  have hjudged : areClausesBraced (disk.excerpt path) s (t.field? "body") t.namedChildren =
      .ok rest := by
    rw [h.hasBody, areClausesBraced_eq_filter]
    exact hrest
  have htidy : IsTidyTry s IsByteGap t body ↔ first = true ∧ rest = true := by
    rw [hfirstIff, hrestIff]
    constructor
    · intro htidy
      exact ⟨⟨⟨_, htidy.head, rfl⟩, htidy.braces⟩, htidy.gaps, htidy.tidyClauses⟩
    · intro hboth
      obtain ⟨⟨⟨text, hslice, rfl⟩, hbraces⟩, hgaps, hclauses⟩ := hboth
      exact ⟨hslice, hbraces, hgaps, hclauses⟩
  rw [htidy, isWellLaid, hjudged, h.hasBody, hfirst]
  cases first with
  | false => exact ⟨false, rfl, by simp⟩
  | true => exact ⟨rest, rfl, by simp⟩

/-- A statement that tries a block is reported exactly if it is not in the right layout, where any
byte of a line may stand between two parts. In particular it is not reported where these are spaces,
and where only spaces are such bytes there is no other such layout. -/
theorem visit_tryCatch_eq_ok_nil_iff {check : Check}
    (hcheck : (Criterion.laying .tryCatch).check .java = .ok check)
    (hs : disk.source path = .ok s) (hparses : s.parses = true)
    (hfits : s.tree.fits s.text = true) (htokens : s.tree.hasLeafTokens = true)
    (ht : s.tree.IsNodeOf t) (hnamed : t.info.isNamed = true) (h : IsTry s t body) :
    t ∈ s.tree.preorder ∧
    check disk path = s.tree.walk (tryCatch.visit .java (disk.excerpt path) s) ∧
    (tryCatch.visit .java (disk.excerpt path) s t = .ok [] ↔ IsTidyTry s IsByteGap t body) ∧
    (¬ IsTidyTry s IsByteGap t body → tryCatch.visit .java (disk.excerpt path) s t =
      .ok [⟨s.path, s.line t, "Invalid format for try catch statement"⟩]) ∧
    (IsTidyTry s (· = [' ']) t body → tryCatch.visit .java (disk.excerpt path) s t = .ok []) ∧
    ((∀ joint ∈ joints body (clauses t), HasGap s IsByteGap joint.1 joint.2 →
        HasGap s (· = [' ']) joint.1 joint.2) →
      (tryCatch.visit .java (disk.excerpt path) s t = .ok [] ↔
        IsTidyTry s (· = [' ']) t body)) := by
  obtain ⟨ok, hok, htidy⟩ :=
    @exists_isWellLaid_tryCatch_eq_ok s t body disk path .java hs hfits ht h
  have hkind : (tryCatch.kinds .java).contains t.kind = true := by
    rw [h.kind]
    rfl
  have hvisit : tryCatch.visit .java (disk.excerpt path) s t =
      .ok (if ok then [] else [⟨s.path, s.line t, "Invalid format for try catch statement"⟩]) := by
    rw [visit, if_pos hkind, hok, Except.map_ok]
    rfl
  have hspace : IsTidyTry s (· = [' ']) t body → IsTidyTry s IsByteGap t body := by
    intro hspaces
    refine hspaces.imp ?_
    intro joint _ hgap
    obtain ⟨gap, hslice, rfl⟩ := hgap
    exact ⟨_, hslice, ' ', rfl, by decide, by decide⟩
  have hnil : tryCatch.visit .java (disk.excerpt path) s t = .ok [] ↔
      IsTidyTry s IsByteGap t body := by
    rw [hvisit, ← htidy]
    cases ok <;> simp
  refine ⟨SyntaxTree.mem_preorder_of_isNodeOf htokens ht hnamed,
    Criterion.check_laying_eq hcheck hs hparses, hnil, ?_, fun hspaces => hnil.mpr (hspace hspaces),
    fun honly => hnil.trans ⟨fun hbytes => hbytes.imp honly, hspace⟩⟩
  intro hbad
  rw [hvisit, Bool.eq_false_iff.mpr fun hok => hbad (htidy.mp hok)]
  rfl

end Judgement

section Attached

def callBlock (start : Nat) : SyntaxTree :=
  .named "block" (some "body") start (start + 9) [
    .token "\x7b" start,
    .named "expression_statement" none (start + 3) (start + 7) [
      .named "method_invocation" none (start + 3) (start + 6) [
        .named "identifier" (some "name") (start + 3) (start + 4) [],
        .named "argument_list" (some "arguments") (start + 4) (start + 6)
          [.token "(" (start + 4), .token ")" (start + 5)]],
      .token ";" (start + 6)],
    .token "\x7d" (start + 8)]

/-- The clause behind the block. -/
def catchClause : SyntaxTree :=
  .named "catch_clause" none 47 68 [
    .token "catch" 47,
    .token "(" 53,
    .named "catch_formal_parameter" none 54 57 [
      .named "catch_type" none 54 55 [.named "type_identifier" none 54 55 []],
      .named "identifier" (some "name") 56 57 []],
    .token ")" 57,
    callBlock 59]

def tryStatement : SyntaxTree :=
  .named "try_statement" none 33 68 [.token "try" 33, callBlock 37, catchClause]

/-- A method that tries a block, with a text between the block and its clause. -/
def trySource (gap : String) : Source where
  path := "A.java"
  text := "class A \x7b\n    void f() \x7b\n        try \x7b\n g();\n\x7d".toList ++
    (gap.toList ++ "catch (E e) \x7b\n h();\n\x7d\n    \x7d\n\x7d\n".toList)
  tree := .named "program" none 0 77 [
    .named "class_declaration" none 0 76 [
      .token "class" 0,
      .named "identifier" (some "name") 6 7 [],
      .named "class_body" (some "body") 8 76 [
        .token "\x7b" 8,
        .named "method_declaration" none 14 74 [
          .named "void_type" (some "type") 14 18 [],
          .named "identifier" (some "name") 19 20 [],
          .named "formal_parameters" (some "parameters") 20 22 [.token "(" 20, .token ")" 21],
          .named "block" (some "body") 23 74 [.token "\x7b" 23, tryStatement, .token "\x7d" 73]],
        .token "\x7d" 75]]]

def tryDisk (gap : String) : Disk :=
  ⟨[.file "A.java" (.text (trySource gap).text (trySource gap).tree)]⟩

theorem source_tryDisk (gap : String) : (tryDisk gap).source "A.java" = .ok (trySource gap) :=
  Disk.source_eq_ok_of_singleton (by decide) (by decide) _ _

theorem tryStatement_mem_preorder (gap : String) : tryStatement ∈ (trySource gap).tree.preorder :=
  List.mem_of_getElem? (i := 9) rfl

theorem isTry_trySource (gap : String) (hgap : gap ∈ [" ", "\t"]) :
    (trySource gap).tree.fits (trySource gap).text = true ∧
      IsTry (trySource gap) tryStatement (callBlock 37) := by
  have hfits : ∀ gap ∈ [" ", "\t"], (trySource gap).tree.fits (trySource gap).text = true := by
    decide +kernel
  have hstarts : ∀ gap ∈ [" ", "\t"], isVisibleByte (trySource gap).text 33 = true ∧
      isVisibleByte (trySource gap).text 47 = true := by
    decide +kernel
  have hblocks : ∀ gap ∈ [" ", "\t"],
      (trySource gap).textOf (callBlock 37) = "\x7b\n g();\n\x7d".toList ∧
        (trySource gap).textOf (callBlock 59) = "\x7b\n h();\n\x7d".toList := by
    decide +kernel
  have hclause : IsClause (trySource gap) catchClause (callBlock 59) :=
    ⟨⟨(hstarts gap hgap).2, _, (hblocks gap hgap).2⟩, rfl, rfl⟩
  refine ⟨hfits gap hgap, ⟨(hstarts gap hgap).1, _, (hblocks gap hgap).1⟩, rfl, rfl, ?_, ?_⟩
  · refine ⟨[], [catchClause], rfl, ?_⟩
    intro c hc
    obtain rfl : c = callBlock 37 := List.mem_singleton.mp hc
    rfl
  · intro c hc
    obtain rfl : c = catchClause := List.mem_singleton.mp hc
    exact ⟨_, hclause⟩

/-- Where a space stands in front of the clause, nothing is reported. -/
theorem visit_trySource_of_space : ∃ check,
    (Criterion.laying .tryCatch).check .java = .ok check ∧
      (trySource " ").parses = true ∧
      IsTry (trySource " ") tryStatement (callBlock 37) ∧
      IsTidyTry (trySource " ") (· = [' ']) tryStatement (callBlock 37) ∧
      tryCatch.visit .java ((tryDisk " ").excerpt "A.java") (trySource " ") tryStatement =
        .ok [] := by
  obtain ⟨check, hcheck⟩ : ∃ check, (Criterion.laying .tryCatch).check .java = .ok check := ⟨_, rfl⟩
  obtain ⟨hfits, hparsed⟩ := isTry_trySource " " (by decide)
  have htokens : (trySource " ").tree.hasLeafTokens = true := by decide
  have hnode := SyntaxTree.isNodeOf_of_mem_preorder (tryStatement_mem_preorder " ")
  have hhead : slice? (trySource " ").text 33 38 = some "try \x7b".toList := by decide +kernel
  have hbraces : InBraces ((trySource " ").textOf (callBlock 37)) :=
    ⟨"\n g();\n".toList, by decide +kernel⟩
  have hgap : HasGap (trySource " ") (· = [' ']) (callBlock 37) catchClause :=
    ⟨[' '], by decide +kernel, rfl⟩
  have hcondition : IsCondition "E e".toList :=
    ⟨by decide, ⟨'E', rfl, by decide +kernel⟩, ⟨'e', rfl, by decide +kernel⟩⟩
  have hclause : IsTidyClause (trySource " ") catchClause :=
    ⟨callBlock 59, rfl,
      ⟨"catch (E e) \x7b".toList, by decide +kernel, .inl ⟨rfl, _, hcondition, by decide⟩⟩,
      "\n h();\n".toList, by decide +kernel⟩
  have htidy : IsTidyTry (trySource " ") (· = [' ']) tryStatement (callBlock 37) := by
    refine ⟨hhead, hbraces, ?_, ?_⟩
    · intro joint hjoint
      obtain rfl : joint = (callBlock 37, catchClause) := List.mem_singleton.mp hjoint
      exact hgap
    · intro c hc
      obtain rfl : c = catchClause := List.mem_singleton.mp hc
      exact hclause
  obtain ⟨-, -, -, -, hspaces, -⟩ := visit_tryCatch_eq_ok_nil_iff hcheck (source_tryDisk " ") rfl
    hfits htokens hnode rfl hparsed
  exact ⟨check, hcheck, rfl, hparsed, htidy, hspaces htidy⟩

/-- A tab in front of the clause is no space, and yet nothing is reported. -/
theorem check_trySource_of_tab : ∃ check,
    (Criterion.laying .tryCatch).check .java = .ok check ∧
      (trySource "\t").parses = true ∧
      IsTry (trySource "\t") tryStatement (callBlock 37) ∧
      slice? (trySource "\t").text 46 47 = some ['\t'] ∧
      ¬ IsTidyTry (trySource "\t") (· = [' ']) tryStatement (callBlock 37) ∧
      check (tryDisk "\t") "A.java" = .ok [] := by
  obtain ⟨check, hcheck⟩ : ∃ check, (Criterion.laying .tryCatch).check .java = .ok check := ⟨_, rfl⟩
  obtain ⟨-, hparsed⟩ := isTry_trySource "\t" (by decide)
  have hslice : slice? (trySource "\t").text 46 47 = some ['\t'] := by decide +kernel
  have hbad : ¬ IsTidyTry (trySource "\t") (· = [' ']) tryStatement (callBlock 37) := by
    intro htidy
    obtain ⟨gap, hgap, rfl⟩ := htidy.gaps (callBlock 37, catchClause) (List.mem_singleton.mpr rfl)
    have htab : some ['\t'] = some [' '] := hslice.symm.trans hgap
    exact absurd htab (by decide)
  have hwell : ∀ t ∈ (trySource "\t").tree.preorder, (tryCatch.kinds .java).contains t.kind = true →
      tryCatch.isWellLaid .java (Excerpt.ofText "A.java" (trySource "\t").text) (trySource "\t") t =
        .ok true := by
    decide +kernel
  exact ⟨check, hcheck, rfl, hparsed, hslice, hbad,
    (Criterion.check_laying_eq_ok_nil_iff hcheck (source_tryDisk "\t") rfl).mpr hwell⟩

end Attached

end Layout

end CodeStyle

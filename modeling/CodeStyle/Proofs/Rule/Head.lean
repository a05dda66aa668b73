import CodeStyle.Proofs.Disk.Read
import CodeStyle.Proofs.Excerpt.Head
import CodeStyle.Proofs.Regex.Whole
import CodeStyle.Proofs.SyntaxTree.Fit
import CodeStyle.Proofs.Text.Blank
import CodeStyle.Rule.Layout

/-!
# Heads on one line

No pattern for the head of a statement matches across lines. What the quotation from a file changes
in a head over several lines, its line ends and a brace in the first column, is therefore without
consequence: the judgement of a statement is that of its head in the text of the tree.
-/
namespace CodeStyle.Layout

open Regex Text

section Patterns

variable {c : Char}

theorem avoids_seqs_iff {as : List Regex} :
    (Expr.seqs as).avoids c = true ↔ ∀ a ∈ as, a.avoids c = true := by
  induction as with
  | nil => simp [Expr.seqs, Expr.avoids]
  | cons a as ih =>
    rw [List.forall_mem_cons, ← ih]
    cases as <;> simp [Expr.seqs, Expr.avoids]

theorem contains_single_iff {d : Char} : (CharSet.single d).contains c = true ↔ c = d := by
  simp only [CharSet.single, CharSet.contains, Bool.and_eq_true, decide_eq_true_eq]
  constructor
  · exact fun h => Char.le_antisymm h.2 h.1
  · rintro rfl
    exact ⟨Char.le_refl c, Char.le_refl c⟩

theorem avoids_fixed {text : String} (h : c ∉ text.toList) : (fixed text).avoids c = true := by
  rw [fixed, avoids_seqs_iff]
  intro a ha
  obtain ⟨d, hd, rfl⟩ := List.mem_map.mp ha
  have hne : c ≠ d := fun he => h (he ▸ hd)
  simpa [Expr.avoids, ← contains_single_iff] using hne

theorem avoids_onLine : onLine.avoids '\n' = true := rfl

theorem avoids_visible : visible.avoids '\n' = true := by
  have h : Unicode.Property.whiteSpace.contains '\n' = true := isBlank_lineFeed
  simp [visible, Expr.avoids, CharSet.contains, CharSet.space, h]

/-- The forms of the heads of statements and clauses. -/
def headPatterns : List Regex :=
  [forHead, conditionHead "if", conditionHead "while", conditionHead "switch", plainHead "try",
    conditionHead "catch", plainHead "finally"]

variable {text : List Char} {keyword : String}

theorem not_mem_of_isMatch_plainHead (hkeyword : '\n' ∉ keyword.toList)
    (h : isMatch (plainHead keyword) text = true) : '\n' ∉ text := by
  refine not_mem_of_isMatch_seqs h ?_
  rw [avoids_seqs_iff, List.forall_mem_singleton]
  exact avoids_fixed (by simp [hkeyword])

theorem not_mem_of_isMatch_conditionHead (hkeyword : '\n' ∉ keyword.toList)
    (h : isMatch (conditionHead keyword) text = true) : '\n' ∉ text := by
  refine not_mem_of_isMatch_seqs h ?_
  have hopen : (fixed (keyword ++ " (")).avoids '\n' = true := avoids_fixed (by simp [hkeyword])
  have hclose : (fixed ") \x7b").avoids '\n' = true := avoids_fixed (by simp)
  have hcondition : (Expr.opt (.seq (.star onLine) visible) : Regex).avoids '\n' = true := by
    simp [Expr.opt, Expr.star, Expr.avoids, avoids_onLine, avoids_visible]
  simp [avoids_seqs_iff, hopen, hclose, hcondition, avoids_visible]

theorem not_mem_of_isMatch_forHead (h : isMatch forHead text = true) : '\n' ∉ text := by
  refine not_mem_of_isMatch_seqs h ?_
  have hfixed : ∀ part ∈ ["for (", "; ", ") \x7b"], (fixed part).avoids '\n' = true :=
    fun part hpart => avoids_fixed (by revert part; decide)
  have hstar : (Expr.star onLine : Regex).avoids '\n' = true := avoids_onLine
  simp [avoids_seqs_iff, hfixed, hstar, avoids_visible]

/-- No head goes on behind the end of a line. -/
theorem not_mem_of_isMatch_head {head : Regex} (hhead : head ∈ headPatterns)
    (h : isMatch head text = true) : '\n' ∉ text := by
  simp only [headPatterns, List.mem_cons, List.not_mem_nil, or_false] at hhead
  rcases hhead with rfl | rfl | rfl | rfl | rfl | rfl | rfl
  · exact not_mem_of_isMatch_forHead h
  · exact not_mem_of_isMatch_conditionHead (by simp) h
  · exact not_mem_of_isMatch_conditionHead (by simp) h
  · exact not_mem_of_isMatch_conditionHead (by simp) h
  · exact not_mem_of_isMatch_plainHead (by simp) h
  · exact not_mem_of_isMatch_conditionHead (by simp) h
  · exact not_mem_of_isMatch_plainHead (by simp) h

end Patterns

/-- Judging a statement by its head as quoted from the file and judging it by its head in the text
of the tree is the same, wherever the head starts and stops at visible bytes. -/
theorem exists_slice?_and_isBraced_eq {disk : Disk} {path : String} {s : Source}
    (hs : disk.source path = .ok s) (hfits : s.tree.fits s.text = true) {t body : SyntaxTree}
    (ht : SyntaxTree.IsNodeOf s.tree t) (hbody : SyntaxTree.IsNodeOf t body)
    (htVisible : isVisibleByte s.text t.info.start = true)
    (hbodyVisible : isVisibleByte s.text body.info.start = true) {head : Regex}
    (hhead : head ∈ headPatterns) :
    ∃ text, slice? s.text t.info.start (body.info.start + 1) = some text ∧
      isBraced (disk.excerpt path) s head t (some body) =
        .ok (isMatch head text && isMatch braced (s.textOf body)) := by
  have hnode := ht.fits hfits
  obtain ⟨excerpt, text, hexcerpt, hslice, heq⟩ :=
    Excerpt.exists_ofText_eq_ok_of_isLineByte path (hbody.start_le hnode)
      (SyntaxTree.fits_iff.mp hnode).1 (SyntaxTree.fits_iff.mp (hbody.fits hnode)).1
      (isInLineEnd_of_isVisibleByte htVisible) (isLineByte_of_isVisibleByte hbodyVisible)
  refine ⟨text, hslice, ?_⟩
  have hmatch : isMatch head excerpt = isMatch head text := by
    rcases heq with rfl | ⟨hexcerptFeed, htextFeed⟩
    · rfl
    · -- neither of two texts with line feeds is a head
      have hno : ∀ l, '\n' ∈ l → isMatch head l = false := fun l hl =>
        Bool.eq_false_iff.mpr fun h => not_mem_of_isMatch_head hhead h hl
      rw [hno excerpt hexcerptFeed, hno text htextFeed]
  rw [isBraced, Disk.excerpt_eq_ofText hs, Source.start, Source.start, hexcerpt, Except.map_ok,
    hmatch]

/-- Two loops in a file with carriage returns, the first with a brace in the first column. -/
def twoLoops : Source where
  path := "A.java"
  text := "while (x)\r\n\x7b\r\n\x7d\r\nwhile (y) \x7b\r\n\x7d\r\n".toList
  tree := .named "program" none 0 33 [
    .named "while_statement" none 0 15 [
      .named "parenthesized_expression" (some "condition") 6 9 [],
      .named "block" (some "body") 11 15 []],
    .named "while_statement" none 17 31 [
      .named "parenthesized_expression" (some "condition") 23 26 [],
      .named "block" (some "body") 27 31 []]]

def loopsDisk : Disk := ⟨[.file "A.java" (.text twoLoops.text twoLoops.tree)]⟩

theorem source_loopsDisk : loopsDisk.source "A.java" = .ok twoLoops :=
  Disk.source_eq_ok_of_singleton (by decide) (by decide) _ _

/-- Neither the carriage returns nor the first column make a difference. -/
theorem isBraced_twoLoops :
    twoLoops.tree.fits twoLoops.text = true ∧
      ∀ t ∈ twoLoops.tree.children, ∀ body ∈ t.children.drop 1,
        ∃ text, slice? twoLoops.text t.info.start (body.info.start + 1) = some text ∧
          isBraced (loopsDisk.excerpt "A.java") twoLoops (conditionHead "while") t (some body) =
            .ok (isMatch (conditionHead "while") text &&
              isMatch braced (twoLoops.textOf body)) := by
  have hfits : twoLoops.tree.fits twoLoops.text = true := by decide
  have hvisible : ∀ t ∈ twoLoops.tree.children, isVisibleByte twoLoops.text t.info.start = true ∧
      ∀ body ∈ t.children.drop 1, isVisibleByte twoLoops.text body.info.start = true := by
    decide +kernel
  refine ⟨hfits, fun t ht body hbody => ?_⟩
  have hnode : SyntaxTree.IsNodeOf t body := .child .root (List.mem_of_mem_drop hbody)
  exact exists_slice?_and_isBraced_eq source_loopsDisk hfits (.child .root ht) hnode
    (hvisible t ht).1 ((hvisible t ht).2 body hbody) (by simp [headPatterns])

end CodeStyle.Layout

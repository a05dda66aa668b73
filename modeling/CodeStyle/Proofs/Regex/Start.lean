import CodeStyle.Proofs.Regex.Whole

/-!
# First characters of matches

An expression that has to take a character first, and only one of some range, matches no text that
starts with another. Two such expressions for ranges that do not meet have no match in common.
-/
namespace CodeStyle.Regex

/-- Whether all members of a set are seen to lie between two characters. -/
def CharSet.liesIn (first last : Char) : CharSet → Bool
  | none => true
  | range a b => first ≤ a && b ≤ last
  | union a b => a.liesIn first last && b.liesIn first last
  | inter a b => a.liesIn first last || b.liesIn first last
  | diff a _ => a.liesIn first last
  | _ => false

variable {first last c : Char}

theorem CharSet.between_of_liesIn {s : CharSet} (h : s.liesIn first last = true)
    (hc : s.contains c = true) : first ≤ c ∧ c ≤ last := by
  induction s with
  | none => simp [contains] at hc
  | range a b =>
    simp only [liesIn, Bool.and_eq_true, decide_eq_true_eq] at h
    simp only [contains, Bool.and_eq_true, decide_eq_true_eq] at hc
    exact ⟨Char.le_trans h.1 hc.1, Char.le_trans hc.2 h.2⟩
  | union a b iha ihb =>
    simp only [liesIn, Bool.and_eq_true] at h
    simp only [contains, Bool.or_eq_true] at hc
    exact hc.elim (iha h.1) (ihb h.2)
  | inter a b iha ihb =>
    simp only [liesIn, Bool.or_eq_true] at h
    simp only [contains, Bool.and_eq_true] at hc
    exact h.elim (iha · hc.1) (ihb · hc.2)
  | diff a b iha _ =>
    simp only [contains, Bool.and_eq_true] at hc
    exact iha h hc.1
  | _ => simp [liesIn] at h

namespace Expr

/-- Whether an expression only tests a position. -/
def isPosition : Regex → Bool
  | empty => true
  | look _ => true
  | _ => false

/-- Whether what an expression matches is seen to start with a character between two others. -/
def opensIn (first last : Char) : Regex → Bool
  | char s => s.liesIn first last
  | seq a b => a.opensIn first last || a.isPosition && b.opensIn first last
  | alt a b => a.opensIn first last && b.opensIn first last
  | rep a min _ => 0 < min && a.opensIn first last
  | _ => false

/-- Whether an expression is seen to match nowhere but at the start of a text. -/
def isAtStart : Regex → Bool
  | seq (look .textStart) _ => true
  | _ => false

end Expr

variable {text : List Char} {r : Regex} {i j : Nat}

theorem eq_of_isPosition (h : MatchesIn text r i j) (hr : r.isPosition = true) : i = j := by
  cases h with
  | empty => rfl
  | look => rfl
  | _ => simp [Expr.isPosition] at hr

/-- A match starts with a character that its expression can open with. -/
theorem getElem?_of_opensIn (h : MatchesIn text r i j) (hr : r.opensIn first last = true) :
    ∃ c, text[i]? = some c ∧ first ≤ c ∧ c ≤ last := by
  induction h with
  | @char s i hs =>
    obtain ⟨c, hc, hmem⟩ := hs
    exact ⟨c, hc, CharSet.between_of_liesIn hr hmem⟩
  | @seq a b i k j ha _ iha ihb =>
    simp only [Expr.opensIn, Bool.or_eq_true, Bool.and_eq_true] at hr
    rcases hr with hr | ⟨hposition, hr⟩
    · exact iha hr
    · obtain rfl := eq_of_isPosition ha hposition
      exact ihb hr
  | altLeft _ ih =>
    simp only [Expr.opensIn, Bool.and_eq_true] at hr
    exact ih hr.1
  | altRight _ ih =>
    simp only [Expr.opensIn, Bool.and_eq_true] at hr
    exact ih hr.2
  | repMust _ _ iha _ =>
    simp only [Expr.opensIn, Bool.and_eq_true] at hr
    exact iha hr.2
  | _ => simp [Expr.opensIn] at hr

theorem eq_zero_of_isAtStart (h : MatchesIn text r i j) (hr : r.isAtStart = true) : i = 0 := by
  unfold Expr.isAtStart at hr
  split at hr
  · obtain ⟨k, hlook, -⟩ := Expr.matches_seq_iff.mp h
    simpa [LookAt, Look.holds] using (Expr.matches_look_iff.mp hlook).1
  · contradiction

/-- A text in which an expression matches starts with a character that the expression can open
with. -/
theorem head?_of_isMatch (h : isMatch r text = true) (hstart : r.isAtStart = true)
    (hopen : r.opensIn first last = true) : ∃ c, text.head? = some c ∧ first ≤ c ∧ c ≤ last := by
  obtain ⟨i, j, -, hmatch⟩ := isMatch_iff.mp h
  obtain rfl := eq_zero_of_isAtStart hmatch hstart
  rw [List.head?_eq_getElem?]
  exact getElem?_of_opensIn hmatch hopen

/-- No text is matched by two expressions that open with characters of ranges that do not meet. -/
theorem isMatch_eq_false_of_isMatch {r' : Regex} {first' last' : Char}
    (h : isMatch r text = true) (hstart : r.isAtStart = true)
    (hopen : r.opensIn first last = true) (hstart' : r'.isAtStart = true)
    (hopen' : r'.opensIn first' last' = true) (hapart : last < first' ∨ last' < first) :
    isMatch r' text = false := by
  by_contra hmatch'
  obtain ⟨c, hc, hle, hge⟩ := head?_of_isMatch h hstart hopen
  obtain ⟨c', hc', hle', hge'⟩ := head?_of_isMatch (by simpa using hmatch') hstart' hopen'
  obtain rfl : c = c' := Option.some.inj (hc.symm.trans hc')
  rcases hapart with hlt | hlt
  · exact absurd (Char.le_trans hle' hge) (Char.not_le.mpr hlt)
  · exact absurd (Char.le_trans hle hge') (Char.not_le.mpr hlt)

end CodeStyle.Regex

import CodeStyle.Proofs.Regex.Search

/-!
# Matches of whole texts

An expression between the start and the end of the text matches only the text as a whole. If no
test of an expression on a character accepts a certain one, that character does not occur in what
the expression matches.
-/
namespace CodeStyle.Regex

namespace Expr

section Sequences

variable {α β : Type} {charAt : α → Nat → Prop} {lookAt : β → Nat → Prop} {a : Expr α β}
  {as bs : List (Expr α β)} {i j k : Nat}

theorem matches_seqs_cons_iff :
    Matches charAt lookAt (seqs (a :: as)) i k ↔
      ∃ j, Matches charAt lookAt a i j ∧ Matches charAt lookAt (seqs as) j k := by
  cases as with
  | nil => simp [seqs, matches_empty_iff]
  | cons b as => exact matches_seq_iff

theorem matches_seqs_append_iff :
    Matches charAt lookAt (seqs (as ++ bs)) i k ↔
      ∃ j, Matches charAt lookAt (seqs as) i j ∧ Matches charAt lookAt (seqs bs) j k := by
  induction as generalizing i with
  | nil => simp [seqs, matches_empty_iff]
  | cons a as ih =>
    simp only [List.cons_append, matches_seqs_cons_iff, ih]
    constructor
    · rintro ⟨m, ha, j, has, hbs⟩
      exact ⟨j, ⟨m, ha, has⟩, hbs⟩
    · rintro ⟨j, ⟨m, ha, has⟩, hbs⟩
      exact ⟨m, ha, j, has, hbs⟩

/-- Sequences may be grouped. -/
theorem matches_seqs_flatten_iff {pieces : List (List (Expr α β))} :
    Matches charAt lookAt (seqs pieces.flatten) i k ↔
      Matches charAt lookAt (seqs (pieces.map seqs)) i k := by
  induction pieces generalizing i with
  | nil => rfl
  | cons as pieces ih =>
    simp only [List.flatten_cons, List.map_cons, matches_seqs_append_iff, matches_seqs_cons_iff, ih]

end Sequences

/-- Whether no test on a character accepts a certain one. -/
def avoids (c : Char) : Regex → Bool
  | empty => true
  | char s => !s.contains c
  | look _ => true
  | seq a b => avoids c a && avoids c b
  | alt a b => avoids c a && avoids c b
  | rep a _ _ => avoids c a

end Expr

variable {text : List Char} {c : Char}

/-- A character that is avoided does not occur in a match. -/
theorem getElem?_ne_of_avoids {r : Regex} {i j k : Nat} (h : MatchesIn text r i j)
    (hr : r.avoids c = true) (hi : i ≤ k) (hj : k < j) : text[k]? ≠ some c := by
  induction h with
  | empty => omega
  | @char s i hs =>
    obtain ⟨d, hd, hmem⟩ := hs
    have hk : k = i := by omega
    rw [hk, hd]
    rintro heq
    rw [Option.some.inj heq] at hmem
    simp [Expr.avoids, hmem] at hr
  | look => omega
  | @seq a b i m j _ _ iha ihb =>
    simp only [Expr.avoids, Bool.and_eq_true] at hr
    by_cases hm : k < m
    · exact iha hr.1 hi hm
    · exact ihb hr.2 (by omega) hj
  | altLeft _ ih =>
    simp only [Expr.avoids, Bool.and_eq_true] at hr
    exact ih hr.1 hi hj
  | altRight _ ih =>
    simp only [Expr.avoids, Bool.and_eq_true] at hr
    exact ih hr.2 hi hj
  | repDone => omega
  | @repMust a min max i m j _ _ iha ihr =>
    by_cases hm : k < m
    · exact iha hr hi hm
    · exact ihr hr (by omega) hj
  | @repMay a max i m j _ _ iha ihr =>
    by_cases hm : k < m
    · exact iha hr hi hm
    · exact ihr hr (by omega) hj
  | @repMore a i m j _ _ iha ihr =>
    by_cases hm : k < m
    · exact iha hr hi hm
    · exact ihr hr (by omega) hj

/-- An expression between the start and the end of the text matches all of it or nothing. -/
theorem isMatch_seqs_iff {parts : List Regex} :
    isMatch (.seqs (.look .textStart :: (parts ++ [.look .textEnd]))) text = true ↔
      MatchesIn text (.seqs parts) 0 text.length := by
  simp only [isMatch_iff, MatchesIn, Expr.matches_seqs_cons_iff, Expr.matches_seqs_append_iff,
    Expr.matches_look_iff]
  constructor
  · rintro ⟨i, j, -, m, ⟨hstart, rfl⟩, n, hparts, l, ⟨hend, rfl⟩, -⟩
    obtain rfl : i = 0 := by simpa [LookAt, Look.holds] using hstart
    obtain rfl : n = text.length := by simpa [LookAt, Look.holds] using hend
    exact hparts
  · intro h
    exact ⟨0, text.length, Nat.zero_le _, 0, ⟨rfl, rfl⟩, text.length, h, text.length,
      ⟨by simp [LookAt, Look.holds], rfl⟩, .empty _⟩

/-- What is matched as a whole stays so if its parts are grouped. -/
theorem isMatch_flatten_eq (pieces : List (List Regex)) (text : List Char) :
    isMatch (.seqs (.look .textStart :: (pieces.flatten ++ [.look .textEnd]))) text =
      isMatch (.seqs (.look .textStart :: (pieces.map .seqs ++ [.look .textEnd]))) text := by
  rw [Bool.eq_iff_iff, isMatch_seqs_iff, isMatch_seqs_iff]
  exact Expr.matches_seqs_flatten_iff

/-- A text that is matched as a whole is free of characters that are avoided. -/
theorem not_mem_of_isMatch_seqs {parts : List Regex}
    (h : isMatch (.seqs (.look .textStart :: (parts ++ [.look .textEnd]))) text = true)
    (havoids : (Expr.seqs parts).avoids c = true) : c ∉ text := by
  intro hc
  obtain ⟨k, hk, hget⟩ := List.mem_iff_getElem.mp hc
  have hmatch := isMatch_seqs_iff.mp h
  exact getElem?_ne_of_avoids hmatch havoids (Nat.zero_le k) hk
    (by rw [List.getElem?_eq_getElem hk, hget])

end CodeStyle.Regex

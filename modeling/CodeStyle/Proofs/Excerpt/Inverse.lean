import CodeStyle.Proofs.Excerpt.Lines
import CodeStyle.Proofs.Text.Range

/-!
# Excerpts of ranges

Places turn the ends of a range into a span. In a text whose line ends are line feeds alone the
excerpt of that span is the range again, as long as its end has a line.
-/
namespace CodeStyle.Excerpt

open Text

/-- A row in front of a line feed keeps its last character as long as no carriage return stands in
front of a line feed. -/
theorem head?_ne_of_no_carriage_return {before row rest : List Char}
    (h : ¬ ['\r', '\n'] <:+: before ++ (row ++ rest)) (hlast : row.getLast? = some '\r') :
    rest.head? ≠ some '\n' := by
  intro hhead
  obtain ⟨init, rfl⟩ := List.getLast?_eq_some_iff.mp hlast
  obtain ⟨rest, rfl⟩ := List.head?_eq_some_iff.mp hhead
  exact h ⟨before ++ init, rest, by simp⟩

/-- Joining undoes the cut into lines where all of them end with a line feed alone. -/
theorem joinLines_lines {inner : List Char} (hinner : Ended inner)
    (hreturn : ¬ ['\r', '\n'] <:+: inner) (opening closing : List Char) :
    joinLines (opening :: (lines inner ++ [closing])) = opening ++ '\n' :: (inner ++ closing) := by
  induction hinner generalizing opening with
  | nil => rfl
  | @row row rest hrow _ ih =>
    have hlast : row.getLast? ≠ some '\r' := fun hl =>
      @head?_ne_of_no_carriage_return [] row _ hreturn hl rfl
    have hrest : ¬ ['\r', '\n'] <:+: rest := fun hr => by
      obtain ⟨before, after, rfl⟩ := hr
      exact hreturn ⟨row ++ '\n' :: before, after, by simp⟩
    rw [lines_row_append hrow, trimReturn_of_getLast? hlast, List.cons_append, joinLines,
      ih hrest row, List.append_assoc, List.cons_append]
    simp

/-- The offset at which the excerpt between two offsets stops. The first character of a row after
the first one is left out if nothing else of that row would be taken. -/
def excerptStop (text : List Char) (start stop : Nat) : Nat :=
  if (placeAt text start).row ≠ (placeAt text stop).row ∧ (placeAt text stop).column = 1 then
    stop - 1
  else stop

/-- The line of a piece within a row has the piece at the columns of its ends. -/
theorem ofText_eq_ok_of_within {file : String} {head row piece rest : List Char}
    (hreturn : ¬ ['\r', '\n'] <:+: head ++ (row ++ (piece ++ rest))) (hhead : Ended head)
    (hrow : '\n' ∉ row) (hpiece : '\n' ∉ piece) (hne : row ++ (piece ++ rest) ≠ []) :
    ofText file (head ++ (row ++ (piece ++ rest)))
        ⟨⟨(lines head).length + 1, byteLength row + 1⟩,
          ⟨(lines head).length + 1, byteLength row + byteLength piece⟩⟩ = .ok piece := by
  have hall : '\n' ∉ row ++ piece := by simp [hrow, hpiece]
  rw [ofText_within_eq_ok_iff hhead]
  rw [← List.append_assoc row piece rest] at *
  obtain ⟨tail, more, hlines⟩ := exists_lines_eq_cons hall hne fun hl =>
    head?_ne_of_no_carriage_return hreturn hl
  exact ⟨row ++ piece ++ tail, by rw [hlines, List.head?_cons], slice?_append row piece tail⟩

/-- The end of a line, whole lines and the start of a line are together the text between their
ends, but for a last character that stands alone in its row. -/
theorem ofText_eq_ok_of_across {file : String} {head row first inner last rest : List Char}
    (hreturn : ¬ ['\r', '\n'] <:+:
      head ++ (row ++ (first ++ '\n' :: (inner ++ (last ++ rest))))) (hhead : Ended head)
    (hrow : '\n' ∉ row) (hfirst : '\n' ∉ first) (hinner : Ended inner) (hlast : '\n' ∉ last)
    (hne : last ++ rest ≠ []) :
    ofText file (head ++ (row ++ (first ++ '\n' :: (inner ++ (last ++ rest)))))
        ⟨⟨(lines head).length + 1, byteLength row + 1⟩,
          ⟨(lines head).length + 1 + (lines inner).length + 1, byteLength last⟩⟩ =
      .ok (first ++ '\n' :: (inner ++ if byteLength last = 1 then [] else last)) := by
  have hall : '\n' ∉ row ++ first := by simp [hrow, hfirst]
  rw [← List.append_assoc row first] at *
  have hopening : (row ++ first).getLast? ≠ some '\r' := fun hl =>
    head?_ne_of_no_carriage_return hreturn hl rfl
  have hinside : ¬ ['\r', '\n'] <:+: inner ++ (last ++ rest) := fun h =>
    hreturn (h.trans ⟨head ++ (row ++ first) ++ ['\n'], [], by simp⟩)
  obtain ⟨tail, more, hlines⟩ := exists_lines_eq_cons hlast hne fun hl =>
    head?_ne_of_no_carriage_return hinside hl
  rw [ofText_across_eq_ok_iff hhead hall hinner, trimReturn_of_getLast? hopening]
  refine ⟨first, last ++ tail, if byteLength last = 1 then [] else last, ?_, ?_, ?_, ?_⟩
  · simpa [byteLength_append] using slice?_append row first []
  · rw [hlines, List.head?_cons]
  · by_cases hone : byteLength last = 1
    · rw [if_pos hone, if_pos hone]
    · rw [if_neg hone, if_neg hone]
      simpa using slice?_append [] last tail
  · exact (joinLines_lines hinner (fun h => hinside (h.trans (List.prefix_append _ _).isInfix))
      first _).symm

theorem slice?_excerptStop_within {head row piece rest : List Char} (hhead : Ended head)
    (hrow : '\n' ∉ row) (hpiece : '\n' ∉ piece) :
    slice? (head ++ (row ++ (piece ++ rest))) (byteLength head + byteLength row)
        (excerptStop (head ++ (row ++ (piece ++ rest))) (byteLength head + byteLength row)
          (byteLength head + byteLength row + byteLength piece)) = some piece := by
  have hplace := placeAt_within hhead hrow hpiece rest
  simp only [excerptStop, placeAt_append hhead hrow, hplace, ne_eq, not_true_eq_false, false_and,
    if_false]
  exact (Piece.within rfl hhead hrow hpiece rfl rfl).slice?_eq

theorem slice?_excerptStop_across {head row first inner last rest : List Char} (hhead : Ended head)
    (hrow : '\n' ∉ row) (hfirst : '\n' ∉ first) (hinner : Ended inner) (hlast : '\n' ∉ last) :
    slice? (head ++ (row ++ (first ++ '\n' :: (inner ++ (last ++ rest)))))
        (byteLength head + byteLength row)
        (excerptStop (head ++ (row ++ (first ++ '\n' :: (inner ++ (last ++ rest)))))
          (byteLength head + byteLength row)
          (byteLength head + byteLength row + byteLength (first ++ '\n' :: (inner ++ last)))) =
      some (first ++ '\n' :: (inner ++ if byteLength last = 1 then [] else last)) := by
  have hplace := placeAt_across hhead hrow hfirst hinner hlast rest
  have hrows : (lines head).length ≠ (lines head).length + 1 + (lines inner).length := by omega
  simp only [excerptStop, placeAt_append hhead hrow, hplace, ne_eq, hrows, not_false_eq_true,
    true_and]
  by_cases hone : byteLength last = 1
  · rw [if_pos hone, if_pos hone, List.append_nil, slice?_eq_some_iff]
    refine ⟨head ++ row, last ++ rest, by simp, byteLength_append .., ?_⟩
    simp only [byteLength_append, byteLength_cons, hone]
    omega
  · rw [if_neg hone, if_neg hone]
    exact (Piece.across rfl hhead hrow hfirst hinner hlast rfl rfl).slice?_eq

/-- In a text without carriage returns in front of line feeds the positions of two boundaries that
have lines lead back to what stands between them. -/
theorem exists_ofText_eq_ok_and_slice? (file : String) {text : List Char} {start stop : Nat}
    (hreturn : ¬ ['\r', '\n'] <:+: text) (hle : start ≤ stop)
    (hstart : isBoundary text start = true) (hstop : isBoundary text stop = true) :
    ((placeAt text stop).row < (lines text).length ↔
      text ≠ [] ∧ ¬ (stop = byteLength text ∧ text.getLast? = some '\n')) ∧
    ((placeAt text stop).row < (lines text).length →
      ∃ excerpt,
        ofText file text ⟨startPosition text start, stopPosition text stop⟩ = .ok excerpt ∧
          slice? text start (excerptStop text start stop) = some excerpt) := by
  refine ⟨row_lt_length_lines_iff_getLast? hstop, fun hlt => ?_⟩
  obtain ⟨piece, hpiece⟩ := exists_piece hle hstart hstop
  cases hpiece with
  | @within head row piece rest htext hhead hrow hpiece hstartEq hstopEq =>
    subst htext hstartEq hstopEq
    have hplace := placeAt_within hhead hrow hpiece rest
    have hne : row ++ (piece ++ rest) ≠ [] := by
      rwa [hplace, length_lines_lt_iff hhead] at hlt
    refine ⟨piece, ?_, slice?_excerptStop_within hhead hrow hpiece⟩
    simp only [startPosition, stopPosition, placeAt_append hhead hrow, hplace]
    exact ofText_eq_ok_of_within hreturn hhead hrow hpiece hne
  | @across head row first inner last rest htext hhead hrow hfirst hinner hlast hstartEq hstopEq =>
    subst htext hstartEq hstopEq
    have hplace := placeAt_across hhead hrow hfirst hinner hlast rest
    have hne : last ++ rest ≠ [] := fun hnil => by
      have hline := getElem?_lines_across hhead hrow hfirst hinner (last ++ rest)
      rw [hnil, lines_nil, List.head?_nil, List.getElem?_eq_none_iff, ← hnil] at hline
      rw [hplace] at hlt
      exact Nat.not_lt.mpr hline hlt
    refine ⟨_, ?_, slice?_excerptStop_across hhead hrow hfirst hinner hlast⟩
    simp only [startPosition, stopPosition, placeAt_append hhead hrow, hplace]
    exact ofText_eq_ok_of_across hreturn hhead hrow hfirst hinner hlast hne

/-- A range over three rows that takes the only character of the last one leaves it out. -/
theorem ofText_last_character_alone :
    ∃ excerpt,
      ofText "A.java" "ab\né\nc".toList
          ⟨startPosition "ab\né\nc".toList 1, stopPosition "ab\né\nc".toList 7⟩ = .ok excerpt ∧
        slice? "ab\né\nc".toList 1 6 = some excerpt :=
  have hreturn : ¬ ['\r', '\n'] <:+: "ab\né\nc".toList := fun h =>
    absurd (h.mem List.mem_cons_self) (by decide)
  (exists_ofText_eq_ok_and_slice? "A.java" hreturn (by decide) (by decide) (by decide)).2
    (by decide)

end CodeStyle.Excerpt

import CodeStyle.Proofs.Excerpt.Lines
import CodeStyle.Proofs.Text.Range

/-!
# Ranges with excerpts

A span that starts at the place of an offset and stops in the row of another has an excerpt if that
row has a line, the start is not inside a line end, and the last column is a boundary of the line or
the first column of a later row. Whatever else a span of a text leads to is an error of extraction.
-/
namespace CodeStyle.Excerpt

open Text

variable {file : String} {text : List Char} {start stop : Nat}

theorem exists_ofText_across_eq_ok_iff {head first inner rest : List Char} (hhead : Ended head)
    (hfirst : '\n' ∉ first) (hinner : Ended inner) {i j : Nat} :
    (∃ excerpt, ofText file (head ++ (first ++ '\n' :: (inner ++ rest)))
        ⟨⟨(lines head).length + 1, i + 1⟩,
          ⟨(lines head).length + 1 + (lines inner).length + 1, j⟩⟩ = .ok excerpt) ↔
      ∃ last, (lines rest).head? = some last ∧ isBoundary (trimReturn first) i = true ∧
        (j = 1 ∨ isBoundary last j = true) := by
  have hfrom :
      (∃ opening, slice? (trimReturn first) i (byteLength (trimReturn first)) = some opening) ↔
        isBoundary (trimReturn first) i = true := by
    rw [exists_slice?_iff]
    exact ⟨fun h => h.2.1, fun h => ⟨le_byteLength_of_isBoundary h, h, isBoundary_byteLength _⟩⟩
  have hupto : ∀ last, (∃ closing, if j = 1 then closing = [] else slice? last 0 j = some closing) ↔
      (j = 1 ∨ isBoundary last j = true) := fun last => by
    by_cases hj : j = 1
    · simp [hj]
    · simp [hj, exists_slice?_iff]
  simp only [ofText_across_eq_ok_iff hhead hfirst hinner, ← hfrom, ← hupto]
  constructor
  · rintro ⟨_, opening, last, closing, hopening, hlast, hclosing, -⟩
    exact ⟨last, hlast, ⟨opening, hopening⟩, closing, hclosing⟩
  · rintro ⟨last, hlast, ⟨opening, hopening⟩, closing, hclosing⟩
    exact ⟨_, opening, last, closing, hopening, hlast, hclosing, rfl⟩

theorem exists_ofText_eq_ok_iff (hle : start ≤ stop) (hstart : isBoundary text start = true)
    (hstop : isBoundary text stop = true) {j : Nat} :
    (∃ excerpt, ofText file text
        ⟨startPosition text start, ⟨(placeAt text stop).row + 1, j⟩⟩ = .ok excerpt) ↔
      ∃ line, (lines text)[(placeAt text stop).row]? = some line ∧ isInLineEnd text start = false ∧
        if (placeAt text start).row = (placeAt text stop).row then
          (placeAt text start).column ≤ j ∧ isBoundary line j = true
        else j = 1 ∨ isBoundary line j = true := by
  obtain ⟨piece, hpiece⟩ := exists_piece hle hstart hstop
  cases hpiece with
  | @within head row piece rest htext hhead hrow hpiece hstartEq hstopEq =>
    subst htext hstartEq hstopEq
    simp only [startPosition, placeAt_append hhead hrow, placeAt_within hhead hrow hpiece rest,
      if_true, ofText_within_eq_ok_iff hhead, getElem?_lines_append hhead,
      isInLineEnd_ended_append hhead]
    rw [exists_comm]
    simp only [exists_and_left, exists_slice?_iff]
    refine exists_congr fun line => and_congr_right fun hline => ?_
    rw [isBoundary_line_iff hrow hline]
    tauto
  | @across head row first inner last rest htext hhead hrow hfirst hinner hlast hstartEq hstopEq =>
    subst htext hstartEq hstopEq
    have hall : '\n' ∉ row ++ first := by simp [hrow, hfirst]
    have hrows : (lines head).length ≠ (lines head).length + 1 + (lines inner).length := by omega
    have hline : (lines (row ++ (first ++ '\n' :: (inner ++ (last ++ rest))))).head? =
        some (trimReturn (row ++ first)) := by
      rw [← List.append_assoc, lines_row_append hall, List.head?_cons]
    simp only [startPosition, placeAt_append hhead hrow, hrows, if_false,
      placeAt_across hhead hrow hfirst hinner hlast rest,
      getElem?_lines_across hhead hrow hfirst hinner, isInLineEnd_ended_append hhead]
    rw [← isBoundary_line_iff hrow hline, ← List.append_assoc row first]
    exact exists_ofText_across_eq_ok_iff hhead hall hinner

/-- The range between two boundaries has an excerpt if its end has a line and neither end is inside
a line end, except for an end in the first column of a later row. -/
theorem exists_ofText_stopPosition_iff (hle : start ≤ stop) (hstart : isBoundary text start = true)
    (hstop : isBoundary text stop = true) :
    (∃ excerpt, ofText file text ⟨startPosition text start, stopPosition text stop⟩ = .ok excerpt) ↔
      (stop < byteLength text ∨ (placeAt text stop).column ≠ 0) ∧ isInLineEnd text start = false ∧
        (isInLineEnd text stop = false ∨
          (placeAt text start).row ≠ (placeAt text stop).row ∧ (placeAt text stop).column = 1) := by
  rw [← row_lt_length_lines_iff hstop]
  refine (exists_ofText_eq_ok_iff hle hstart hstop).trans ⟨?_, ?_⟩
  · rintro ⟨line, hline, hreturn, hcolumn⟩
    have hlt := (List.getElem?_eq_some_iff.mp hline).1
    rw [isBoundary_column_iff hstop hline] at hcolumn
    refine ⟨hlt, hreturn, ?_⟩
    split at hcolumn
    · exact .inl hcolumn.2
    · exact hcolumn.symm.imp_right fun h => ⟨‹_›, h⟩
  · rintro ⟨hlt, hreturn, hcolumn⟩
    have hline := List.getElem?_eq_getElem hlt
    refine ⟨_, hline, hreturn, ?_⟩
    rw [isBoundary_column_iff hstop hline]
    split
    · rename_i hrows
      exact ⟨column_le_of_row_eq hle hstart hstop hrows, hcolumn.resolve_right fun h => h.1 hrows⟩
    · exact hcolumn.symm.imp_left And.right

/-- A span of a range that takes in the character behind it has an excerpt if that character is a
single byte of its line, or if nothing is taken of its line, which has to exist. -/
theorem exists_ofText_startPosition_iff (hle : start ≤ stop)
    (hstart : isBoundary text start = true) (hstop : isBoundary text stop = true) :
    (∃ excerpt,
        ofText file text ⟨startPosition text start, startPosition text stop⟩ = .ok excerpt) ↔
      isInLineEnd text start = false ∧
        (isLineByte text stop = true ∨ (placeAt text start).row ≠ (placeAt text stop).row ∧
          (placeAt text stop).column = 0 ∧ stop < byteLength text) := by
  refine (exists_ofText_eq_ok_iff hle hstart hstop).trans ⟨?_, ?_⟩
  · rintro ⟨line, hline, hreturn, hcolumn⟩
    have hlt := (row_lt_length_lines_iff hstop).mp (List.getElem?_eq_some_iff.mp hline).1
    rw [isBoundary_succ_column_iff hstop hline, Nat.add_eq_right] at hcolumn
    refine ⟨hreturn, ?_⟩
    split at hcolumn
    · exact .inl hcolumn.2
    · exact hcolumn.symm.imp_right fun h => ⟨‹_›, h, hlt.resolve_right fun hne => hne h⟩
  · rintro ⟨hreturn, hcolumn⟩
    have hlt : stop < byteLength text :=
      hcolumn.elim (lt_byteLength_of_isLineByte hstop) fun h => h.2.2
    have hline := List.getElem?_eq_getElem ((row_lt_length_lines_iff hstop).mpr (.inl hlt))
    refine ⟨_, hline, hreturn, ?_⟩
    rw [isBoundary_succ_column_iff hstop hline, Nat.add_eq_right]
    split
    · rename_i hrows
      have hle := column_le_of_row_eq hle hstart hstop hrows
      exact ⟨Nat.le_succ_of_le hle, hcolumn.resolve_right fun h => h.1 hrows⟩
    · exact hcolumn.symm.imp_left fun h => h.2.1

end CodeStyle.Excerpt

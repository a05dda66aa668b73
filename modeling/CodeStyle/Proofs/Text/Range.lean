import CodeStyle.Proofs.Text.Rows

/-!
# Ranges of a text

Every boundary has a place in a line, except at the start of a row that the text does not have. The
column of a place is a boundary of its line unless the place is inside a line end, and one byte more
is a boundary if what follows is a single byte of the line. Two boundaries in order cut out a piece
that lies within one row or goes across rows.
-/
namespace CodeStyle.Text

/-- The part of a text between two offsets, with the rows in which it starts and stops. -/
inductive Piece (text : List Char) (start stop : Nat) : List Char → Prop
  | within {head row piece rest : List Char} (htext : text = head ++ (row ++ (piece ++ rest)))
      (hhead : Ended head) (hrow : '\n' ∉ row) (hpiece : '\n' ∉ piece)
      (hstart : start = byteLength head + byteLength row)
      (hstop : stop = start + byteLength piece) : Piece text start stop piece
  | across {head row first inner last rest : List Char}
      (htext : text = head ++ (row ++ (first ++ '\n' :: (inner ++ (last ++ rest)))))
      (hhead : Ended head) (hrow : '\n' ∉ row) (hfirst : '\n' ∉ first) (hinner : Ended inner)
      (hlast : '\n' ∉ last) (hstart : start = byteLength head + byteLength row)
      (hstop : stop = start + byteLength (first ++ '\n' :: (inner ++ last))) :
      Piece text start stop (first ++ '\n' :: (inner ++ last))

theorem isInLineEnd_append (before after : List Char) :
    isInLineEnd (before ++ after) (byteLength before) =
      (before.getLast? == some '\r' && after.head? == some '\n') := by
  simp [isInLineEnd, takeBytes?_append, dropBytes?_append]

theorem isLineByte_append (before after : List Char) :
    isLineByte (before ++ after) (byteLength before) = startsWithLineByte after := by
  simp [isLineByte, dropBytes?_append]

/-- Whether a place is inside a line end is told by its row and by what follows it. -/
theorem isInLineEnd_ended_append {head row : List Char} (h : Ended head) (rest : List Char) :
    isInLineEnd (head ++ (row ++ rest)) (byteLength head + byteLength row) =
      (row.getLast? == some '\r' && rest.head? == some '\n') := by
  rw [← byteLength_append, ← List.append_assoc, isInLineEnd_append, getLast?_ended_append h]

/-- A boundary has a row in front of it that starts behind a line end. -/
theorem exists_row_of_isBoundary {text : List Char} {n : Nat} (h : isBoundary text n = true) :
    ∃ head row rest, text = head ++ (row ++ rest) ∧ Ended head ∧ '\n' ∉ row ∧
      n = byteLength head + byteLength row := by
  obtain ⟨before, rest, rfl, rfl⟩ := isBoundary_iff.mp h
  obtain ⟨head, row, rfl, hhead, hrow⟩ := exists_ended_append before
  exact ⟨head, row, rest, List.append_assoc .., hhead, hrow, byteLength_append ..⟩

/-- The line of a place is the first line from the start of its row on. -/
theorem getElem?_lines_append {head : List Char} (h : Ended head) (rest : List Char) :
    (lines (head ++ rest))[(lines head).length]? = (lines rest).head? := by
  rw [lines_append h, List.getElem?_append_right (Nat.le_refl _), Nat.sub_self,
    List.head?_eq_getElem?]

theorem length_lines_lt_iff {head : List Char} (h : Ended head) {rest : List Char} :
    (lines head).length < (lines (head ++ rest)).length ↔ rest ≠ [] := by
  rw [lines_append h, List.length_append, Nat.lt_add_right_iff_pos, List.length_pos_iff, ne_eq,
    lines_eq_nil_iff]

theorem isBoundary_line_iff {row rest line : List Char} (hrow : '\n' ∉ row)
    (h : (lines (row ++ rest)).head? = some line) :
    isBoundary line (byteLength row) = true ↔
      (row.getLast? == some '\r' && rest.head? == some '\n') = false := by
  by_cases hend : row.getLast? = some '\r' ∧ rest.head? = some '\n'
  · obtain ⟨⟨init, rfl⟩, ⟨rest, rfl⟩⟩ :=
      And.imp List.getLast?_eq_some_iff.mp List.head?_eq_some_iff.mp hend
    rw [lines_row_append hrow, trimReturn_append_return] at h
    obtain rfl : init = line := by simpa using h
    have hshort : ¬ isBoundary init (byteLength (init ++ ['\r'])) = true := fun hb => by
      have := le_byteLength_of_isBoundary hb
      rw [byteLength_append, byteLength_cons] at this
      have := Char.utf8Size_pos '\r'
      omega
    simpa using hshort
  · have hne : row ++ rest ≠ [] := by rintro he; simp [he] at h
    obtain ⟨tail, more, hlines⟩ := exists_lines_eq_cons hrow hne fun hr hf => hend ⟨hr, hf⟩
    obtain rfl : row ++ tail = line := by simpa [hlines] using h
    simpa using not_and.mp hend

theorem startsWithLineByte_cons (c : Char) (rest : List Char) :
    startsWithLineByte (c :: rest) = true ↔
      c ≠ '\n' ∧ ¬ (c = '\r' ∧ rest.head? = some '\n') ∧ c.utf8Size = 1 := by
  rw [List.head?_eq_some_iff]
  unfold startsWithLineByte
  split <;> grind

theorem isBoundary_cons_one_iff {c : Char} {rest : List Char} :
    isBoundary (c :: rest) 1 = true ↔ c.utf8Size = 1 := by
  have hc := c.utf8Size_pos
  by_cases hsize : c.utf8Size = 1
  · simp [isBoundary, dropBytes?, hsize]
  · have : ¬ c.utf8Size ≤ 0 + 1 := by omega
    simp [isBoundary, dropBytes?, this, hsize]

/-- The byte behind a place belongs to the line of the place exactly if it is a character. -/
theorem isBoundary_line_succ_iff {row rest line : List Char} (hrow : '\n' ∉ row)
    (h : (lines (row ++ rest)).head? = some line) :
    isBoundary line (byteLength row + 1) = true ↔ startsWithLineByte rest = true := by
  have hshort : byteLength line ≤ byteLength row →
      ¬ isBoundary line (byteLength row + 1) = true := fun hle hb => by
    have := le_byteLength_of_isBoundary hb
    omega
  cases rest with
  | nil =>
    have hne : row ≠ [] := by rintro rfl; simp at h
    rw [List.append_nil, lines_row hrow hne] at h
    obtain rfl : row = line := by simpa using h
    simpa [startsWithLineByte] using hshort (Nat.le_refl _)
  | cons c rest =>
    by_cases hc : c = '\n'
    · subst c
      rw [lines_row_append hrow] at h
      obtain rfl : trimReturn row = line := by simpa using h
      simpa [startsWithLineByte] using hshort (byteLength_trimReturn_le row)
    by_cases hend : c = '\r' ∧ rest.head? = some '\n'
    · obtain ⟨rfl, ⟨rest, rfl⟩⟩ := And.imp_right List.head?_eq_some_iff.mp hend
      have hreturn : '\n' ∉ row ++ ['\r'] := by simp [hrow]
      rw [List.append_cons, lines_row_append hreturn, trimReturn_append_return] at h
      obtain rfl : row = line := by simpa using h
      simpa [startsWithLineByte] using hshort (Nat.le_refl _)
    · have hlong : '\n' ∉ row ++ [c] := by simp [hrow, Ne.symm hc]
      obtain ⟨tail, more, hlines⟩ := @exists_lines_eq_cons _ rest hlong (by simp)
        (by simpa using fun hr hf => hend ⟨hr, hf⟩)
      rw [List.append_cons, hlines] at h
      obtain rfl : row ++ [c] ++ tail = line := by simpa using h
      rw [List.append_assoc, List.singleton_append, isBoundary_append_add, isBoundary_cons_one_iff,
        startsWithLineByte_cons]
      exact ⟨fun hsize => ⟨hc, hend, hsize⟩, fun h => h.2.2⟩

theorem lt_byteLength_of_isLineByte {text : List Char} {n : Nat} (hn : isBoundary text n = true)
    (h : isLineByte text n = true) : n < byteLength text := by
  obtain ⟨before, after, rfl, rfl⟩ := isBoundary_iff.mp hn
  rw [isLineByte_append] at h
  have hafter : after ≠ [] := by rintro rfl; simp [startsWithLineByte] at h
  rw [byteLength_append, Nat.lt_add_right_iff_pos, Nat.pos_iff_ne_zero, ne_eq,
    byteLength_eq_zero_iff]
  exact hafter

section Offsets

variable {text line : List Char} {n : Nat}

theorem isBoundary_column_iff (h : isBoundary text n = true)
    (hline : (lines text)[(placeAt text n).row]? = some line) :
    isBoundary line (placeAt text n).column = true ↔ isInLineEnd text n = false := by
  obtain ⟨head, row, rest, rfl, hhead, hrow, rfl⟩ := exists_row_of_isBoundary h
  rw [placeAt_append hhead hrow, getElem?_lines_append hhead] at hline
  rw [placeAt_append hhead hrow, isBoundary_line_iff hrow hline, isInLineEnd_ended_append hhead]

theorem isBoundary_succ_column_iff (h : isBoundary text n = true)
    (hline : (lines text)[(placeAt text n).row]? = some line) :
    isBoundary line ((placeAt text n).column + 1) = true ↔ isLineByte text n = true := by
  obtain ⟨head, row, rest, rfl, hhead, hrow, rfl⟩ := exists_row_of_isBoundary h
  rw [placeAt_append hhead hrow, getElem?_lines_append hhead] at hline
  rw [placeAt_append hhead hrow, isBoundary_line_succ_iff hrow hline, ← byteLength_append,
    ← List.append_assoc, isLineByte_append]

/-- A place has a line unless the text ends there at the start of a row. -/
theorem row_lt_length_lines_iff (h : isBoundary text n = true) :
    (placeAt text n).row < (lines text).length ↔
      n < byteLength text ∨ (placeAt text n).column ≠ 0 := by
  obtain ⟨head, row, rest, rfl, hhead, hrow, rfl⟩ := exists_row_of_isBoundary h
  have hrest : 0 < byteLength rest ↔ rest ≠ [] := by
    rw [Nat.pos_iff_ne_zero, ne_eq, byteLength_eq_zero_iff]
  rw [placeAt_append hhead hrow, length_lines_lt_iff hhead]
  simp only [byteLength_append, Nat.add_lt_add_iff_left, Nat.lt_add_right_iff_pos, hrest, ne_eq,
    byteLength_eq_zero_iff, List.append_eq_nil_iff]
  tauto

/-- The place without a line is the end of a text that is empty or ends with a line feed. -/
theorem row_lt_length_lines_iff_getLast? (h : isBoundary text n = true) :
    (placeAt text n).row < (lines text).length ↔
      text ≠ [] ∧ ¬ (n = byteLength text ∧ text.getLast? = some '\n') := by
  obtain ⟨head, row, rest, rfl, hhead, hrow, rfl⟩ := exists_row_of_isBoundary h
  have hzero : byteLength rest = 0 ↔ rest = [] := byteLength_eq_zero_iff
  have hend : byteLength head + byteLength row = byteLength (head ++ (row ++ rest)) ↔
      rest = [] := by
    rw [byteLength_append, byteLength_append, ← hzero]
    omega
  rw [placeAt_append hhead hrow, length_lines_lt_iff hhead, hend]
  by_cases hrest : rest = []
  · subst rest
    by_cases hne : row = []
    · subst row
      by_cases hstart : head = []
      · simp [hstart]
      · simp [hhead.getLast?_eq hstart]
    · have hlast : row.getLast? ≠ some '\n' := fun hl => hrow (List.mem_of_getLast? hl)
      simp [List.getLast?_append, hne, hlast]
  · simp [hrest]

end Offsets

/-- Two boundaries in order cut a piece out of a text. -/
theorem exists_piece {text : List Char} {start stop : Nat} (hle : start ≤ stop)
    (hstart : isBoundary text start = true) (hstop : isBoundary text stop = true) :
    ∃ piece, Piece text start stop piece := by
  obtain ⟨before, piece, rest, rfl, rfl, rfl⟩ := exists_pieces hle hstart hstop
  obtain ⟨head, row, rfl, hhead, hrow⟩ := exists_ended_append before
  obtain ⟨first, after, rfl, hfirst, rfl | ⟨after, rfl⟩⟩ := exists_row_append piece
  · refine ⟨first ++ [], ?_⟩
    rw [List.append_nil]
    exact .within (List.append_assoc ..) hhead hrow hfirst (byteLength_append ..) rfl
  · obtain ⟨inner, last, rfl, hinner, hlast⟩ := exists_ended_append after
    have htext : head ++ row ++ (first ++ '\n' :: (inner ++ last) ++ rest) =
        head ++ (row ++ (first ++ '\n' :: (inner ++ (last ++ rest)))) := by simp
    exact ⟨_, .across htext hhead hrow hfirst hinner hlast (byteLength_append ..) rfl⟩

/-- The place behind a piece within a row. -/
theorem placeAt_within {head row piece : List Char} (hhead : Ended head) (hrow : '\n' ∉ row)
    (hpiece : '\n' ∉ piece) (rest : List Char) :
    placeAt (head ++ (row ++ (piece ++ rest)))
        (byteLength head + byteLength row + byteLength piece) =
      ⟨(lines head).length, byteLength row + byteLength piece⟩ := by
  have hall : '\n' ∉ row ++ piece := by simp [hrow, hpiece]
  have h := placeAt_append hhead hall rest
  rwa [byteLength_append, ← Nat.add_assoc, List.append_assoc] at h

/-- The place behind a piece across rows. -/
theorem placeAt_across {head row first inner last : List Char} (hhead : Ended head)
    (hrow : '\n' ∉ row) (hfirst : '\n' ∉ first) (hinner : Ended inner) (hlast : '\n' ∉ last)
    (rest : List Char) :
    placeAt (head ++ (row ++ (first ++ '\n' :: (inner ++ (last ++ rest)))))
        (byteLength head + byteLength row + byteLength (first ++ '\n' :: (inner ++ last))) =
      ⟨(lines head).length + 1 + (lines inner).length, byteLength last⟩ := by
  have hall : '\n' ∉ row ++ first := by simp [hrow, hfirst]
  have hended : Ended (head ++ (row ++ first ++ '\n' :: inner)) := hhead.append (.row hall hinner)
  have h := placeAt_append hended hlast rest
  rw [lines_append hhead, lines_row_append hall, List.length_append, List.length_cons] at h
  simp only [byteLength_append, byteLength_cons, List.append_assoc, List.cons_append] at h ⊢
  rw [show (lines head).length + 1 + (lines inner).length =
    (lines head).length + ((lines inner).length + 1) by omega, ← h]
  congr 1
  omega

/-- Within a row columns are in the order of the offsets. -/
theorem column_le_of_row_eq {text : List Char} {start stop : Nat} (hle : start ≤ stop)
    (hstart : isBoundary text start = true) (hstop : isBoundary text stop = true)
    (hrows : (placeAt text start).row = (placeAt text stop).row) :
    (placeAt text start).column ≤ (placeAt text stop).column := by
  obtain ⟨piece, hpiece⟩ := exists_piece hle hstart hstop
  cases hpiece with
  | @within head row piece rest htext hhead hrow hpiece hstartEq hstopEq =>
    subst htext hstartEq hstopEq
    rw [placeAt_append hhead hrow, placeAt_within hhead hrow hpiece]
    exact Nat.le_add_right _ _
  | @across head row first inner last rest htext hhead hrow hfirst hinner hlast hstartEq hstopEq =>
    subst htext hstartEq hstopEq
    rw [placeAt_append hhead hrow, placeAt_across hhead hrow hfirst hinner hlast] at hrows
    simp only at hrows
    omega

/-- The line behind a piece across rows. -/
theorem getElem?_lines_across {head row first inner : List Char} (hhead : Ended head)
    (hrow : '\n' ∉ row) (hfirst : '\n' ∉ first) (hinner : Ended inner) (rest : List Char) :
    (lines (head ++ (row ++ (first ++ '\n' :: (inner ++ rest)))))[(lines head).length + 1 +
        (lines inner).length]? = (lines rest).head? := by
  have hall : '\n' ∉ row ++ first := by simp [hrow, hfirst]
  have h := getElem?_lines_append (hhead.append (.row hall hinner)) rest
  rw [lines_append hhead, lines_row_append hall, List.length_append, List.length_cons] at h
  rw [← h]
  simp only [List.append_assoc, List.cons_append]
  congr 1
  omega

namespace Piece

variable {text piece : List Char} {start stop : Nat}

theorem slice?_eq (h : Piece text start stop piece) : slice? text start stop = some piece := by
  rw [slice?_eq_some_iff]
  cases h with
  | @within head row piece rest htext _ _ _ hstart hstop =>
    exact ⟨head ++ row, rest, by rw [htext, List.append_assoc], by rw [hstart, byteLength_append],
      hstop.symm⟩
  | @across head row first inner last rest htext _ _ _ _ _ hstart hstop =>
    exact ⟨head ++ row, rest, by rw [htext]; simp, by rw [hstart, byteLength_append], hstop.symm⟩

end Piece

end CodeStyle.Text

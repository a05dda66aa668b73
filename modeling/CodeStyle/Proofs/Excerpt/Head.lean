import CodeStyle.Proofs.Excerpt.Existence

/-!
# Excerpts up to a byte

A range together with the byte behind it is quoted as it stands if it lies within one row. A range
over several rows may be quoted otherwise, without its carriage returns or its last byte, but not
without its line feeds.
-/
namespace CodeStyle.Excerpt

open Text

theorem mem_joinLines {opening : List Char} {lines : List (List Char)} (h : lines ≠ []) :
    '\n' ∈ joinLines (opening :: lines) := by
  cases lines with
  | nil => contradiction
  | cons line lines => simp [joinLines]

/-- An excerpt over several rows has a line feed. -/
theorem mem_of_ofText_across {file : String} {head row first inner last rest excerpt : List Char}
    (hhead : Ended head) (hrow : '\n' ∉ row) (hfirst : '\n' ∉ first) (hinner : Ended inner)
    {i j : Nat}
    (h : ofText file (head ++ (row ++ (first ++ '\n' :: (inner ++ (last ++ rest)))))
      ⟨⟨(lines head).length + 1, i + 1⟩,
        ⟨(lines head).length + 1 + (lines inner).length + 1, j⟩⟩ = .ok excerpt) :
    '\n' ∈ excerpt := by
  have hall : '\n' ∉ row ++ first := by simp [hrow, hfirst]
  rw [← List.append_assoc row, ofText_across_eq_ok_iff hhead hall hinner] at h
  obtain ⟨opening, line, closing, -, -, -, rfl⟩ := h
  exact mem_joinLines (by simp)

/-- Within a row the byte behind a range is quoted with the range. -/
theorem ofText_eq_ok_of_within_byte {file : String} {head row piece rest : List Char} {c : Char}
    (hhead : Ended head) (hrow : '\n' ∉ row) (hpiece : '\n' ∉ piece)
    (hbyte : startsWithLineByte (c :: rest) = true) :
    ofText file (head ++ (row ++ (piece ++ c :: rest)))
        ⟨⟨(lines head).length + 1, byteLength row + 1⟩,
          ⟨(lines head).length + 1, byteLength row + byteLength (piece ++ [c])⟩⟩ =
      .ok (piece ++ [c]) := by
  obtain ⟨hfeed, hreturn, -⟩ := (startsWithLineByte_cons c rest).mp hbyte
  have hall : '\n' ∉ row ++ (piece ++ [c]) := by simp [hrow, hpiece, Ne.symm hfeed]
  have hlast : (row ++ (piece ++ [c])).getLast? = some '\r' → rest.head? ≠ some '\n' := by
    intro hl hf
    rw [← List.append_assoc, List.getLast?_concat, Option.some.injEq] at hl
    exact hreturn ⟨hl, hf⟩
  obtain ⟨tail, more, hlines⟩ := @exists_lines_eq_cons _ rest hall (by simp) hlast
  rw [ofText_within_eq_ok_iff hhead]
  refine ⟨row ++ (piece ++ [c]) ++ tail, ?_, ?_⟩
  · have htext : row ++ (piece ++ c :: rest) = row ++ (piece ++ [c]) ++ rest := by simp
    rw [htext, hlines, List.head?_cons]
  · exact slice?_append row (piece ++ [c]) tail

/-- A piece of a text goes on with the byte at which it stops. -/
theorem exists_slice?_succ {before piece rest : List Char}
    (h : isLineByte (before ++ (piece ++ rest)) (byteLength before + byteLength piece) = true) :
    ∃ c after, rest = c :: after ∧ startsWithLineByte (c :: after) = true ∧ c.utf8Size = 1 ∧
      slice? (before ++ (piece ++ rest)) (byteLength before)
        (byteLength before + byteLength piece + 1) = some (piece ++ [c]) := by
  rw [← List.append_assoc, ← byteLength_append, isLineByte_append] at h
  cases rest with
  | nil => simp [startsWithLineByte] at h
  | cons c after =>
    have hsize := ((startsWithLineByte_cons c after).mp h).2.2
    refine ⟨c, after, rfl, h, hsize, slice?_eq_some_iff.mpr ⟨before, after, by simp, rfl, ?_⟩⟩
    rw [byteLength_append, byteLength_cons, byteLength_nil, hsize, Nat.add_assoc]

/-- Up to a byte of a line a range has an excerpt, which is that piece of the text unless both have
a line feed. -/
theorem exists_ofText_eq_ok_of_isLineByte (file : String) {text : List Char} {start stop : Nat}
    (hle : start ≤ stop) (hstart : isBoundary text start = true)
    (hstop : isBoundary text stop = true) (hinside : isInLineEnd text start = false)
    (hbyte : isLineByte text stop = true) :
    ∃ excerpt piece,
      ofText file text ⟨startPosition text start, startPosition text stop⟩ = .ok excerpt ∧
        slice? text start (stop + 1) = some piece ∧
          (excerpt = piece ∨ '\n' ∈ excerpt ∧ '\n' ∈ piece) := by
  obtain ⟨excerpt, hexcerpt⟩ :=
    (@exists_ofText_startPosition_iff file _ _ _ hle hstart hstop).mpr ⟨hinside, .inl hbyte⟩
  obtain ⟨piece, hpiece⟩ := exists_piece hle hstart hstop
  cases hpiece with
  | @within head row piece rest htext hhead hrow hpiece hstartEq hstopEq =>
    subst htext hstartEq hstopEq
    rw [← List.append_assoc, ← byteLength_append] at hbyte
    obtain ⟨c, after, rfl, hc, hsize, hslice⟩ := exists_slice?_succ hbyte
    rw [List.append_assoc, byteLength_append] at hslice
    refine ⟨piece ++ [c], piece ++ [c], ?_, hslice, .inl rfl⟩
    have hplace := placeAt_within hhead hrow hpiece (c :: after)
    have hcolumn : byteLength row + byteLength piece + 1 =
        byteLength row + byteLength (piece ++ [c]) := by
      rw [byteLength_append, byteLength_cons, byteLength_nil, hsize, Nat.add_assoc]
    simp only [startPosition, placeAt_append hhead hrow, hplace, hcolumn]
    exact ofText_eq_ok_of_within_byte hhead hrow hpiece hc
  | @across head row first inner last rest htext hhead hrow hfirst hinner hlast hstartEq hstopEq =>
    subst htext hstartEq hstopEq
    have hplace := placeAt_across hhead hrow hfirst hinner hlast rest
    have hregroup : head ++ (row ++ (first ++ '\n' :: (inner ++ (last ++ rest)))) =
        (head ++ row) ++ ((first ++ '\n' :: (inner ++ last)) ++ rest) := by simp
    have hfeed : '\n' ∈ excerpt := by
      simp only [startPosition, placeAt_append hhead hrow, hplace] at hexcerpt
      exact mem_of_ofText_across hhead hrow hfirst hinner hexcerpt
    rw [hregroup, ← byteLength_append] at hbyte
    obtain ⟨c, after, rfl, -, -, hslice⟩ := exists_slice?_succ hbyte
    rw [← hregroup, byteLength_append] at hslice
    exact ⟨excerpt, _, hexcerpt, hslice, .inr ⟨hfeed, by simp⟩⟩

/-- An excerpt without a line feed is the range together with the byte behind it. -/
theorem slice?_eq_of_ofText_eq_ok {file : String} {text excerpt : List Char} {start stop : Nat}
    (hle : start ≤ stop) (hstart : isBoundary text start = true)
    (hstop : isBoundary text stop = true)
    (h : ofText file text ⟨startPosition text start, startPosition text stop⟩ = .ok excerpt)
    (hfeed : '\n' ∉ excerpt) : slice? text start (stop + 1) = some excerpt := by
  obtain ⟨hinside, hbyte⟩ :=
    (@exists_ofText_startPosition_iff file _ _ _ hle hstart hstop).mp ⟨excerpt, h⟩
  rcases hbyte with hbyte | ⟨hrows, -⟩
  · obtain ⟨excerpt', piece, hexcerpt, hslice, heq⟩ :=
      exists_ofText_eq_ok_of_isLineByte file hle hstart hstop hinside hbyte
    obtain rfl : excerpt = excerpt' := Except.ok.inj (h.symm.trans hexcerpt)
    rcases heq with rfl | ⟨hmem, -⟩
    · exact hslice
    · exact absurd hmem hfeed
  · obtain ⟨piece, hpiece⟩ := exists_piece hle hstart hstop
    cases hpiece with
    | @within head row piece rest htext hhead hrow hpiece hstartEq hstopEq =>
      subst htext hstartEq hstopEq
      rw [placeAt_append hhead hrow, placeAt_within hhead hrow hpiece] at hrows
      exact absurd rfl hrows
    | @across head row first inner last rest htext hhead hrow hfirst hinner hlast hstartEq
        hstopEq =>
      subst htext hstartEq hstopEq
      simp only [startPosition, placeAt_append hhead hrow,
        placeAt_across hhead hrow hfirst hinner hlast rest] at h
      exact absurd (mem_of_ofText_across hhead hrow hfirst hinner h) hfeed

end CodeStyle.Excerpt

import CodeStyle.Excerpt
import CodeStyle.Proofs.Except
import CodeStyle.Proofs.Text.Rows

/-!
# Excerpts from lines

Lines in front of a span are passed over, lines inside it are taken whole, and those behind it are
not looked at. The excerpt of a span over several lines is therefore put together from the end of
one line, whole lines and the start of another.
-/
namespace CodeStyle.Excerpt

open Text

section Pieces

variable {file : String} {span : Span}

theorem pieces_past {number : Nat} (h : span.stop.line < number) (rest : List Line) :
    pieces file span number rest = .ok [] := by
  cases rest with
  | nil => simp [pieces, Nat.not_le.mpr h]
  | cons line rest => simp [pieces, h]

/-- Lines in front of a span are passed over. -/
theorem pieces_before (hspan : span.start.line ≤ span.stop.line) {before : List (List Char)}
    {number : Nat} (h : number + before.length ≤ span.start.line) (rest : List Line) :
    pieces file span number (before.map .ok ++ rest) =
      pieces file span (number + before.length) rest := by
  induction before generalizing number with
  | nil => simp
  | cons line before ih =>
    rw [List.length_cons] at h
    have hstop : ¬ span.stop.line < number := by omega
    have hstart : number < span.start.line := by omega
    have hnumber : number + (before.length + 1) = number + 1 + before.length := by omega
    simp only [List.map_cons, List.cons_append, pieces, hstop, hstart, if_false, if_true,
      List.length_cons, hnumber]
    exact ih (by omega)

/-- Lines inside a span are taken whole. -/
theorem pieces_inside {inner : List (List Char)} {number : Nat} (hstart : span.start.line < number)
    (hstop : number + inner.length ≤ span.stop.line) (rest : List Line) :
    pieces file span number (inner.map .ok ++ rest) =
      (pieces file span (number + inner.length) rest).map (inner ++ ·) := by
  induction inner generalizing number with
  | nil => cases h : pieces file span number rest <;> simp [h]
  | cons line inner ih =>
    rw [List.length_cons] at hstop
    have hbehind : ¬ span.stop.line < number := by omega
    have hbefore : ¬ number < span.start.line := by omega
    have hfirst : number ≠ span.start.line := by omega
    have hlast : number ≠ span.stop.line := by omega
    have hnumber : number + (inner.length + 1) = number + 1 + inner.length := by omega
    simp only [List.map_cons, List.cons_append, pieces, hbehind, hbefore, if_false, piece, hfirst,
      hlast, List.length_cons, hnumber, @ih (number + 1) (by omega) (by omega)]
    cases pieces file span (number + 1 + inner.length) rest <;> rfl

/-- Lines that can be read lead to no errors but those of extraction. -/
theorem exists_fault_of_pieces_eq_error {lines : List (List Char)} {number : Nat} {e : CheckError}
    (h : pieces file span number (lines.map .ok) = .error e) :
    ∃ fault : ExcerptFault, e = fault.toError file := by
  induction lines generalizing number with
  | nil =>
    by_cases hnumber : number ≤ span.stop.line
    · exact ⟨_, by simpa [pieces, hnumber] using h.symm⟩
    · simp [pieces, hnumber] at h
  | cons line lines ih =>
    rw [List.map_cons, pieces] at h
    split at h
    · contradiction
    split at h
    · exact ih h
    · cases hpiece : piece span number line with
      | error fault => exact ⟨fault, by simpa [hpiece] using h.symm⟩
      | ok taken =>
        simp only [hpiece] at h
        exact ih (Except.map_eq_error_iff.mp h)

theorem exists_fault_of_ofText_eq_error {text : List Char} {e : CheckError}
    (h : ofText file text span = .error e) : ∃ fault : ExcerptFault, e = fault.toError file := by
  rw [ofText, ofLines] at h
  split at h
  · exact exists_fault_of_pieces_eq_error (Except.map_eq_error_iff.mp h)
  · exact ⟨_, (Except.error.inj h).symm⟩

end Pieces

/-- The excerpt of a span within one line is a slice of that line. -/
theorem ofLines_within_eq_ok_iff {file : String} {before after : List (List Char)} {i j : Nat}
    {text : List Char} :
    ofLines file ((before ++ after).map .ok)
        ⟨⟨before.length + 1, i + 1⟩, ⟨before.length + 1, j⟩⟩ = .ok text ↔
      ∃ line, after.head? = some line ∧ slice? line i j = some text := by
  by_cases hij : i ≤ j
  · have hvalid : Span.isValid ⟨⟨before.length + 1, i + 1⟩, ⟨before.length + 1, j⟩⟩ = true := by
      simp [Span.isValid, hij]
    rw [ofLines, if_pos hvalid, List.map_append,
      pieces_before (Nat.le_refl _) (by simp [Nat.add_comm])]
    cases after with
    | nil => simp [pieces, Nat.add_comm]
    | cons line rest =>
      have hnumber : 1 + before.length = before.length + 1 := Nat.add_comm ..
      simp only [List.map_cons, pieces, hnumber, Nat.lt_irrefl, if_false, piece, if_true,
        Nat.add_sub_cancel, cut, List.head?_cons, Option.some.injEq, exists_eq_left']
      rw [pieces_past (Nat.lt_succ_self _)]
      cases slice? line i j with
      | none => simp
      | some taken => simp [joinLines]
  · have hvalid : Span.isValid ⟨⟨before.length + 1, i + 1⟩, ⟨before.length + 1, j⟩⟩ = false := by
      simp [Span.isValid, hij]
    rw [ofLines, hvalid]
    simp [slice?, hij]

/-- What a span takes from its last line, when it starts in an earlier one. -/
theorem pieces_last_eq_ok_iff {file : String} {span : Span}
    (hspan : span.start.line < span.stop.line) {after taken : List (List Char)} :
    pieces file span span.stop.line (after.map .ok) = .ok taken ↔
      ∃ last closing, after.head? = some last ∧
        (if span.stop.column = 1 then closing = []
          else slice? last 0 span.stop.column = some closing) ∧ taken = [closing] := by
  cases after with
  | nil => simp [pieces]
  | cons last rest =>
    have hbefore : ¬ span.stop.line < span.start.line := by omega
    have hfirst : span.stop.line ≠ span.start.line := by omega
    simp only [List.map_cons, pieces, Nat.lt_irrefl, if_false, hbefore, piece, hfirst, if_true,
      List.head?_cons, Option.some.injEq, exists_and_left, exists_eq_left']
    rw [pieces_past (Nat.lt_succ_self _)]
    by_cases hcolumn : span.stop.column = 1
    · simp [hcolumn, eq_comm]
    · cases h : slice? last 0 span.stop.column with
      | none => simp [hcolumn, cut, h]
      | some closing => simp [hcolumn, cut, h, eq_comm]

/-- The excerpt of a span over several lines is the end of the first, those in between, and the
start of the last, of which a stop in the first column takes nothing. -/
theorem ofLines_across_eq_ok_iff {file : String} {before inner after : List (List Char)}
    {first : List Char} {i j : Nat} {text : List Char} :
    ofLines file ((before ++ first :: (inner ++ after)).map .ok)
        ⟨⟨before.length + 1, i + 1⟩, ⟨before.length + 1 + inner.length + 1, j⟩⟩ = .ok text ↔
      ∃ opening last closing, slice? first i (byteLength first) = some opening ∧
        after.head? = some last ∧ (if j = 1 then closing = [] else slice? last 0 j = some closing) ∧
          text = joinLines (opening :: (inner ++ [closing])) := by
  have hvalid : Span.isValid
      ⟨⟨before.length + 1, i + 1⟩, ⟨before.length + 1 + inner.length + 1, j⟩⟩ = true := by
    simp only [Span.isValid, bne_iff_ne, ne_eq, Bool.and_eq_true, Bool.or_eq_true,
      decide_eq_true_eq]
    omega
  have hnumber : 1 + before.length = before.length + 1 := Nat.add_comm ..
  have hstop : ¬ before.length + 1 + inner.length + 1 < before.length + 1 := by omega
  have hlines : before.length + 1 ≠ before.length + 1 + inner.length + 1 := by omega
  have hinner : before.length + 1 + 1 + inner.length = before.length + 1 + inner.length + 1 := by
    omega
  rw [ofLines, if_pos hvalid, List.map_append,
    pieces_before (by simp only; omega) (by simp only; omega)]
  simp only [List.map_cons, pieces, hnumber, hstop, Nat.lt_irrefl, if_false, piece, if_true, hlines,
    Nat.add_sub_cancel, cut]
  cases hopening : slice? first i (byteLength first) with
  | none => simp
  | some opening =>
    have hlast := @pieces_last_eq_ok_iff file
      ⟨⟨before.length + 1, i + 1⟩, ⟨before.length + 1 + inner.length + 1, j⟩⟩
      (by simp only; omega) after
    rw [List.map_append, pieces_inside (by simp only; omega) (by simp only; omega), hinner]
    simp only [Except.map_eq_ok_iff, hlast, Option.some.injEq]
    constructor
    · rintro ⟨_, ⟨_, ⟨_, ⟨last, closing, hafter, hclosing, rfl⟩, rfl⟩, rfl⟩, rfl⟩
      exact ⟨opening, last, closing, rfl, hafter, hclosing, rfl⟩
    · rintro ⟨_, last, closing, rfl, hafter, hclosing, rfl⟩
      exact ⟨_, ⟨_, ⟨_, ⟨last, closing, hafter, hclosing, rfl⟩, rfl⟩, rfl⟩, rfl⟩

theorem ofText_within_eq_ok_iff {file : String} {head : List Char} (hhead : Ended head)
    {rest text : List Char} {i j : Nat} :
    ofText file (head ++ rest)
        ⟨⟨(lines head).length + 1, i + 1⟩, ⟨(lines head).length + 1, j⟩⟩ = .ok text ↔
      ∃ line, (lines rest).head? = some line ∧ slice? line i j = some text := by
  rw [ofText, lines_append hhead]
  exact ofLines_within_eq_ok_iff

theorem ofText_across_eq_ok_iff {file : String} {head first inner : List Char} (hhead : Ended head)
    (hfirst : '\n' ∉ first) (hinner : Ended inner) {rest text : List Char} {i j : Nat} :
    ofText file (head ++ (first ++ '\n' :: (inner ++ rest)))
        ⟨⟨(lines head).length + 1, i + 1⟩,
          ⟨(lines head).length + 1 + (lines inner).length + 1, j⟩⟩ = .ok text ↔
      ∃ opening last closing,
        slice? (trimReturn first) i (byteLength (trimReturn first)) = some opening ∧
          (lines rest).head? = some last ∧
            (if j = 1 then closing = [] else slice? last 0 j = some closing) ∧
              text = joinLines (opening :: (lines inner ++ [closing])) := by
  rw [ofText, lines_append hhead, lines_row_append hfirst, lines_append hinner]
  exact ofLines_across_eq_ok_iff

end CodeStyle.Excerpt

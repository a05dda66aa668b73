import CodeStyle.Proofs.Text.Boundary
import CodeStyle.Text.Lines
import CodeStyle.Text.Position

/-!
# Rows and lines

Places count line feeds, lines are what stands between line ends. A text is cut into a part that
ends with a line feed and the row behind it: the lines of the first part stand in front of those of
what follows, their number is the row of every place in that row, and the bytes of the row in front
of a place are its column. A line differs from its row only by a carriage return in front of the
line feed, and an empty row at the end of a text is no line.
-/
namespace CodeStyle.Text

/-- A text of rows that all end with a line feed, so that what follows it starts a row. -/
inductive Ended : List Char → Prop
  | nil : Ended []
  | row {row rest : List Char} (h : '\n' ∉ row) (hrest : Ended rest) : Ended (row ++ '\n' :: rest)

/-- A row without a carriage return at its end. -/
def trimReturn (row : List Char) : List Char := closeLine row.reverse

/-- Whether an offset stands between the carriage return and the line feed of a line end. -/
def isInLineEnd (text : List Char) (n : Nat) : Bool :=
  match takeBytes? text n, dropBytes? text n with
  | some before, some after => before.getLast? == some '\r' && after.head? == some '\n'
  | _, _ => false

/-- Whether a text starts with a character of one byte that is no part of a line end. -/
def startsWithLineByte : List Char → Bool
  | '\n' :: _ => false
  | '\r' :: '\n' :: _ => false
  | c :: _ => c.utf8Size == 1
  | [] => false

/-- Whether the character at an offset takes one byte and is no part of a line end. -/
def isLineByte (text : List Char) (n : Nat) : Bool := (dropBytes? text n).any startsWithLineByte

theorem exists_ended_append (text : List Char) :
    ∃ head row, text = head ++ row ∧ Ended head ∧ '\n' ∉ row := by
  induction text with
  | nil => exact ⟨[], [], rfl, .nil, List.not_mem_nil⟩
  | cons c text ih =>
    obtain ⟨head, row, rfl, hhead, hrow⟩ := ih
    by_cases hc : c = '\n'
    · subst c
      exact ⟨'\n' :: head, row, rfl, .row (@List.not_mem_nil _ '\n') hhead, hrow⟩
    · cases hhead with
      | nil => exact ⟨[], c :: row, rfl, .nil, by simp [hrow, Ne.symm hc]⟩
      | @row first rest hfirst hrest =>
        exact ⟨(c :: first) ++ '\n' :: rest, row, rfl, .row (by simp [hfirst, Ne.symm hc]) hrest,
          hrow⟩

/-- A text starts with a row, and what follows the row is nothing or starts with a line feed. -/
theorem exists_row_append (text : List Char) :
    ∃ row after, text = row ++ after ∧ '\n' ∉ row ∧
      (after = [] ∨ ∃ rest, after = '\n' :: rest) := by
  induction text with
  | nil => exact ⟨[], [], rfl, List.not_mem_nil, .inl rfl⟩
  | cons c text ih =>
    obtain ⟨row, after, rfl, hrow, hafter⟩ := ih
    by_cases hc : c = '\n'
    · subst c
      exact ⟨[], '\n' :: (row ++ after), rfl, List.not_mem_nil, .inr ⟨_, rfl⟩⟩
    · exact ⟨c :: row, after, rfl, by simp [hrow, Ne.symm hc], hafter⟩

theorem linesFrom_row_append {row : List Char} (h : '\n' ∉ row) (current rest : List Char) :
    linesFrom current (row ++ '\n' :: rest) =
      closeLine (row.reverse ++ current) :: linesFrom [] rest := by
  induction row generalizing current with
  | nil => simp [linesFrom]
  | cons c row ih =>
    obtain ⟨hc, hrow⟩ : '\n' ≠ c ∧ '\n' ∉ row := by simpa using h
    simp [linesFrom, Ne.symm hc, ih hrow]

theorem linesFrom_row {row : List Char} (h : '\n' ∉ row) {current : List Char}
    (hne : row.reverse ++ current ≠ []) :
    linesFrom current row = [(row.reverse ++ current).reverse] := by
  induction row generalizing current with
  | nil =>
    have hcurrent : current ≠ [] := by simpa using hne
    simp [linesFrom, hcurrent]
  | cons c row ih =>
    obtain ⟨hc, hrow⟩ : '\n' ≠ c ∧ '\n' ∉ row := by simpa using h
    simp [linesFrom, Ne.symm hc, ih hrow]

@[simp] theorem lines_nil : lines [] = [] := rfl

theorem lines_row_append {row : List Char} (h : '\n' ∉ row) (rest : List Char) :
    lines (row ++ '\n' :: rest) = trimReturn row :: lines rest := by
  simpa [lines, trimReturn] using linesFrom_row_append h [] rest

theorem lines_row {row : List Char} (h : '\n' ∉ row) (hne : row ≠ []) : lines row = [row] := by
  simpa [lines] using @linesFrom_row row h [] (by simpa using hne)

/-- What follows an ended text has lines of its own. -/
theorem lines_append {head : List Char} (h : Ended head) (rest : List Char) :
    lines (head ++ rest) = lines head ++ lines rest := by
  induction h with
  | nil => rfl
  | @row row head hrow _ ih =>
    rw [List.append_assoc, List.cons_append, lines_row_append hrow, lines_row_append hrow, ih]
    rfl

@[simp] theorem lines_eq_nil_iff {text : List Char} : lines text = [] ↔ text = [] := by
  obtain ⟨row, after, rfl, hrow, rfl | ⟨rest, rfl⟩⟩ := exists_row_append text
  · by_cases hne : row = []
    · simp [hne]
    · simp [lines_row hrow hne, hne]
  · simp [lines_row_append hrow]

theorem trimReturn_append_return (row : List Char) : trimReturn (row ++ ['\r']) = row := by
  simp [trimReturn, closeLine]

theorem trimReturn_of_getLast? {row : List Char} (h : row.getLast? ≠ some '\r') :
    trimReturn row = row := by
  rcases List.eq_nil_or_concat row with rfl | ⟨init, c, rfl⟩
  · rfl
  · have hc : c ≠ '\r' := by simpa using h
    simp only [trimReturn, List.concat_eq_append, List.reverse_append, List.reverse_singleton,
      List.singleton_append]
    unfold closeLine
    split
    · simp_all
    · simp

theorem trimReturn_append (row : List Char) {tail : List Char} (h : tail ≠ []) :
    trimReturn (row ++ tail) = row ++ trimReturn tail := by
  by_cases hlast : tail.getLast? = some '\r'
  · obtain ⟨init, rfl⟩ := List.getLast?_eq_some_iff.mp hlast
    rw [← List.append_assoc, trimReturn_append_return, trimReturn_append_return]
  · have hall : (row ++ tail).getLast? ≠ some '\r' := by simpa [List.getLast?_append, h] using hlast
    rw [trimReturn_of_getLast? hlast, trimReturn_of_getLast? hall]

theorem Ended.append {a b : List Char} (ha : Ended a) (hb : Ended b) : Ended (a ++ b) := by
  induction ha with
  | nil => exact hb
  | @row row rest hrow _ ih =>
    rw [List.append_assoc, List.cons_append]
    exact .row hrow ih

theorem Ended.getLast?_eq {text : List Char} (h : Ended text) (hne : text ≠ []) :
    text.getLast? = some '\n' := by
  induction h with
  | nil => contradiction
  | @row row rest _ _ ih =>
    by_cases hrest : rest = []
    · simp [hrest]
    · simp [List.getLast?_append, List.getLast?_cons, ih hrest]

theorem getLast?_ended_append {head row : List Char} (h : Ended head) :
    ((head ++ row).getLast? == some '\r') = (row.getLast? == some '\r') := by
  by_cases hrow : row = []
  · by_cases hhead : head = []
    · simp [hrow, hhead]
    · simp [hrow, h.getLast?_eq hhead]
  · simp [List.getLast?_append, hrow]

/-- A row that a text starts with stays in front of the first line, unless it ends with the carriage
return of a line end. -/
theorem exists_lines_eq_cons {row rest : List Char} (hrow : '\n' ∉ row) (hne : row ++ rest ≠ [])
    (hreturn : row.getLast? = some '\r' → rest.head? ≠ some '\n') :
    ∃ tail more, lines (row ++ rest) = (row ++ tail) :: more := by
  obtain ⟨tail, after, rfl, htail, hafter⟩ := exists_row_append rest
  have hall : '\n' ∉ row ++ tail := by simp [hrow, htail]
  rw [← List.append_assoc] at hne ⊢
  rcases hafter with rfl | ⟨after, rfl⟩
  · rw [List.append_nil] at hne ⊢
    exact ⟨tail, [], lines_row hall hne⟩
  · rw [lines_row_append hall]
    by_cases htail : tail = []
    · subst tail
      refine ⟨[], lines after, ?_⟩
      rw [List.append_nil, trimReturn_of_getLast? fun h => hreturn h rfl]
    · exact ⟨trimReturn tail, lines after, by rw [trimReturn_append row htail]⟩

theorem byteLength_trimReturn_le (row : List Char) :
    byteLength (trimReturn row) ≤ byteLength row := by
  by_cases hlast : row.getLast? = some '\r'
  · obtain ⟨init, rfl⟩ := List.getLast?_eq_some_iff.mp hlast
    rw [trimReturn_append_return, byteLength_append]
    exact Nat.le_add_right _ _
  · exact Nat.le_of_eq (congrArg byteLength (trimReturn_of_getLast? hlast))

/-- The place behind a text, when the text starts at a place. -/
theorem placeFrom_append (p : Place) (before after : List Char) :
    placeFrom p (before ++ after) (byteLength before) = before.foldl Place.step p := by
  induction before generalizing p with
  | nil => simp [placeFrom]
  | cons c before ih =>
    have hc := c.utf8Size_pos
    obtain ⟨n, hn⟩ : ∃ n, byteLength (c :: before) = n + 1 :=
      ⟨byteLength (c :: before) - 1, by simp only [byteLength_cons]; omega⟩
    have hsub : n + 1 - c.utf8Size = byteLength before := by rw [← hn]; simp
    simp only [List.cons_append, hn, placeFrom, hsub, ih, List.foldl_cons]

theorem foldl_step_row {row : List Char} (h : '\n' ∉ row) (p : Place) :
    row.foldl Place.step p = ⟨p.row, p.column + byteLength row⟩ := by
  induction row generalizing p with
  | nil => simp
  | cons c row ih =>
    obtain ⟨hc, hrow⟩ : '\n' ≠ c ∧ '\n' ∉ row := by simpa using h
    simp [ih hrow, Place.step, Ne.symm hc, Nat.add_assoc]

theorem foldl_step_ended {head : List Char} (h : Ended head) (n : Nat) :
    head.foldl Place.step ⟨n, 0⟩ = ⟨n + (lines head).length, 0⟩ := by
  induction h generalizing n with
  | nil => simp
  | @row row rest hrow _ ih =>
    rw [List.foldl_append, foldl_step_row hrow, List.foldl_cons, lines_row_append hrow]
    simp only [Place.step, if_true, ih, List.length_cons]
    congr 1
    omega

theorem length_lines_of_ended {head : List Char} (h : Ended head) :
    (lines head).length = head.count '\n' := by
  induction h with
  | nil => simp
  | @row row rest hrow _ ih =>
    rw [lines_row_append hrow, List.length_cons, ih, List.count_append,
      List.count_eq_zero_of_not_mem hrow, List.count_cons_self, Nat.zero_add]

/-- The row of a place is the number of lines in front of it, its column measures what stands in
front of it in its row. -/
theorem placeAt_append {head row : List Char} (hhead : Ended head) (hrow : '\n' ∉ row)
    (rest : List Char) :
    placeAt (head ++ (row ++ rest)) (byteLength head + byteLength row) =
      ⟨(lines head).length, byteLength row⟩ := by
  rw [← List.append_assoc, ← byteLength_append, placeAt, placeFrom_append, List.foldl_append,
    foldl_step_ended hhead, foldl_step_row hrow]
  simp

end CodeStyle.Text

import CodeStyle.Proofs.Text.Rows

/-!
# Line ends

Carriage returns in front of line feeds and a line feed behind the last row change no line of a text.
The text must have no carriage returns of its own, of which one would be trimmed, and must end within
a line, as another line feed behind the last one, or in an empty text, ends an empty line.
-/
namespace CodeStyle.Text

/-- A text with a carriage return in front of every line feed. -/
def withReturns (text : List Char) : List Char :=
  text.flatMap fun c => if c = '\n' then ['\r', '\n'] else [c]

/-- Whether a text is another with a carriage return in front of some of its line feeds. -/
inductive AddsReturns : List Char → List Char → Prop
  | nil : AddsReturns [] []
  | keep {text other : List Char} (c : Char) (h : AddsReturns text other) :
      AddsReturns (c :: text) (c :: other)
  | add {text other : List Char} (h : AddsReturns text other) :
      AddsReturns ('\n' :: text) ('\r' :: '\n' :: other)

/-- Whether a text is another with a line feed behind it, with carriage returns in front of all line
feeds, or with both, where the line feed behind it may have its carriage return or not. -/
inductive HasOtherEnds (text : List Char) : List Char → Prop
  | closed : HasOtherEnds text (text ++ ['\n'])
  | returned : HasOtherEnds text (withReturns text)
  | returnedThenClosed : HasOtherEnds text (withReturns text ++ ['\n'])
  | closedThenReturned : HasOtherEnds text (withReturns (text ++ ['\n']))

variable {text other : List Char}

theorem addsReturns_withReturns (text : List Char) : AddsReturns text (withReturns text) := by
  induction text with
  | nil => exact .nil
  | cons c text ih =>
    by_cases hc : c = '\n'
    · subst c
      exact .add ih
    · simpa [withReturns, hc] using AddsReturns.keep c ih

theorem AddsReturns.append {more others : List Char} (h : AddsReturns text other)
    (hmore : AddsReturns more others) : AddsReturns (text ++ more) (other ++ others) := by
  induction h with
  | nil => exact hmore
  | keep c _ ih => exact .keep c ih
  | add _ ih => exact .add ih

theorem closeLine_of_head? {line : List Char} (h : line.head? ≠ some '\r') :
    closeLine line = line.reverse := by
  unfold closeLine
  split
  · exact absurd rfl h
  · rfl

/-- What has been read of the current line never ends with a carriage return in the text without
them, so the one that is added is the one that is trimmed. -/
theorem AddsReturns.linesFrom_eq (h : AddsReturns text other) (hreturn : '\r' ∉ text)
    {current : List Char} (hcurrent : current.head? ≠ some '\r') :
    linesFrom current other = linesFrom current text := by
  have hnone : ([] : List Char).head? ≠ some '\r' := by simp
  induction h generalizing current with
  | nil => rfl
  | keep c _ ih =>
    obtain ⟨hc, hrest⟩ : '\r' ≠ c ∧ '\r' ∉ _ := by simpa using hreturn
    have hnext : (c :: current).head? ≠ some '\r' := by simpa using hc.symm
    rw [linesFrom, linesFrom, ih hrest hnone, ih hrest hnext]
  | add _ ih =>
    have hrest := List.not_mem_of_not_mem_cons hreturn
    rw [linesFrom, if_neg (by decide), linesFrom, if_pos rfl, linesFrom, if_pos rfl,
      ih hrest hnone, closeLine, closeLine_of_head? hcurrent]

theorem AddsReturns.lines_eq (h : AddsReturns text other) (hreturn : '\r' ∉ text) :
    lines other = lines text :=
  h.linesFrom_eq hreturn (by simp)

/-- A last row that holds something is the same line with a line feed behind it. -/
theorem lines_append_feed (hne : text ≠ []) (hreturn : '\r' ∉ text)
    (hlast : text.getLast? ≠ some '\n') : lines (text ++ ['\n']) = lines text := by
  obtain ⟨head, row, rfl, hhead, hrow⟩ := exists_ended_append text
  have hsome : row ≠ [] := by
    rintro rfl
    rw [List.append_nil] at hne hlast
    exact hlast (hhead.getLast?_eq hne)
  have htrim : trimReturn row = row := trimReturn_of_getLast? fun h =>
    hreturn (List.mem_append_right _ (List.mem_of_getLast? h))
  rw [List.append_assoc, lines_append hhead, lines_append hhead, lines_row_append hrow,
    lines_row hrow hsome, htrim, lines_nil]

/-- A text without carriage returns that ends within a line has the same lines whatever ends them. -/
theorem HasOtherEnds.lines_eq (h : HasOtherEnds text other) (hne : text ≠ [])
    (hreturn : '\r' ∉ text) (hlast : text.getLast? ≠ some '\n') : lines other = lines text := by
  have hclosed : lines (text ++ ['\n']) = lines text := lines_append_feed hne hreturn hlast
  have hboth : '\r' ∉ text ++ ['\n'] := by simp [hreturn]
  cases h with
  | closed => exact hclosed
  | returned => exact (addsReturns_withReturns text).lines_eq hreturn
  | returnedThenClosed =>
    have hadds := (addsReturns_withReturns text).append (.keep '\n' .nil)
    exact (hadds.lines_eq hboth).trans hclosed
  | closedThenReturned =>
    exact ((addsReturns_withReturns _).lines_eq hboth).trans hclosed

end CodeStyle.Text

import CodeStyle.Proofs.Text.Range
import CodeStyle.Text.Lines

/-!
# Visible characters

The characters of line ends are white space, so a place in front of a visible character of one byte
is no place in a line end, and that character is a byte of its line.
-/
namespace CodeStyle.Text

theorem changes_whiteSpace : Unicode.Property.whiteSpace.changes =
    #[9, 14, 32, 33, 133, 134, 160, 161, 5760, 5761, 8192, 8203, 8232, 8234, 8239, 8240, 8287, 8288,
      12288, 12289] := by
  decide

theorem isBlank_lineFeed : isBlank '\n' = true := by
  simp [isBlank, Unicode.CodeSet.contains, changes_whiteSpace, Unicode.countLe]

theorem isBlank_return : isBlank '\r' = true := by
  simp [isBlank, Unicode.CodeSet.contains, changes_whiteSpace, Unicode.countLe]

section Visible

variable {c : Char}

theorem ne_lineFeed_of_isBlank (h : isBlank c = false) : c ≠ '\n' := by
  rintro rfl
  rw [isBlank_lineFeed] at h
  contradiction

theorem ne_return_of_isBlank (h : isBlank c = false) : c ≠ '\r' := by
  rintro rfl
  rw [isBlank_return] at h
  contradiction

end Visible

/-- Whether a text starts with a character of one byte that is no white space. -/
def startsVisibly : List Char → Bool
  | [] => false
  | c :: _ => c.utf8Size == 1 && !isBlank c

/-- Whether the character at an offset takes one byte and is no white space. -/
def isVisibleByte (text : List Char) (n : Nat) : Bool := (dropBytes? text n).any startsVisibly

variable {text : List Char} {n : Nat}

theorem exists_of_isVisibleByte (h : isVisibleByte text n = true) :
    ∃ c rest, dropBytes? text n = some (c :: rest) ∧ c.utf8Size = 1 ∧ c ≠ '\n' ∧ c ≠ '\r' := by
  obtain ⟨after, hafter, hstarts⟩ := (Option.any_eq_true _ _).mp h
  cases after with
  | nil => simp [startsVisibly] at hstarts
  | cons c rest =>
    obtain ⟨hsize, hblank⟩ : c.utf8Size = 1 ∧ isBlank c = false := by
      simpa [startsVisibly] using hstarts
    exact ⟨c, rest, hafter, hsize, ne_lineFeed_of_isBlank hblank, ne_return_of_isBlank hblank⟩

/-- A visible byte is a byte of its line. -/
theorem isLineByte_of_isVisibleByte (h : isVisibleByte text n = true) :
    isLineByte text n = true := by
  obtain ⟨c, rest, hdrop, hsize, hfeed, hreturn⟩ := exists_of_isVisibleByte h
  rw [isLineByte, hdrop, Option.any_some, startsWithLineByte_cons]
  exact ⟨hfeed, fun hend => hreturn hend.1, hsize⟩

/-- A visible byte is not behind the carriage return of a line end. -/
theorem isInLineEnd_of_isVisibleByte (h : isVisibleByte text n = true) :
    isInLineEnd text n = false := by
  obtain ⟨c, rest, hdrop, -, hfeed, -⟩ := exists_of_isVisibleByte h
  rw [isInLineEnd, hdrop]
  cases takeBytes? text n <;> simp [hfeed]

end CodeStyle.Text

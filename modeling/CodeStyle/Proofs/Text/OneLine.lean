/-!
# Texts on one line

A text is on one line if it holds no line feed. It is a line of an output if a line feed follows.
-/
namespace CodeStyle

/-- Whether a text holds no line feed. -/
def IsOneLine (s : String) : Prop := '\n' ∉ s.toList

/-- Whether a text is one line with its line feed. -/
def IsLine (s : String) : Prop := ∃ t, IsOneLine t ∧ s = t ++ "\n"

variable {a b sep : String}

instance : DecidablePred IsOneLine := fun s => inferInstanceAs (Decidable ('\n' ∉ s.toList))

@[simp] theorem isOneLine_append : IsOneLine (a ++ b) ↔ IsOneLine a ∧ IsOneLine b := by
  simp [IsOneLine, String.toList_append]

theorem isOneLine_ofList {cs : List Char} : IsOneLine (String.ofList cs) ↔ '\n' ∉ cs := by
  rw [IsOneLine, String.toList_ofList]

@[simp] theorem isOneLine_toString_nat (n : Nat) : IsOneLine (toString n) := by
  rw [Nat.toString_eq_ofList_toDigits, isOneLine_ofList]
  intro hmem
  exact absurd (Nat.isDigit_of_mem_toDigits (by decide) (by decide) hmem) (by decide)

/-- A list of texts is on one line if all of them are. -/
theorem isOneLine_intercalate (hsep : IsOneLine sep) (parts : List String) :
    IsOneLine (sep.intercalate parts) ↔ ∀ part ∈ parts, IsOneLine part := by
  induction parts with
  | nil => simp [IsOneLine]
  | cons part parts ih =>
    cases parts with
    | nil => simp
    | cons next parts =>
      rw [String.intercalate_cons_cons, isOneLine_append, isOneLine_append, ih]
      simp [hsep]

theorem isLine_append_lineFeed : IsLine (a ++ "\n") ↔ IsOneLine a := by
  refine ⟨?_, fun h => ⟨a, h, rfl⟩⟩
  rintro ⟨t, ht, heq⟩
  have hlists := congrArg String.toList heq
  simp only [String.toList_append, List.append_cancel_right_eq] at hlists
  rwa [String.toList_inj.mp hlists]

end CodeStyle

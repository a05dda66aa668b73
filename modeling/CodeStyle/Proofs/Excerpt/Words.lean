import CodeStyle.Proofs.Excerpt.Fault

/-!
# Spans in words

A span that is asked for has lines and columns of 32 bits. It is refused if it ends before it starts,
and also if it ends in the largest column of the line in which it starts, since the column behind that
one is zero. All other spans are quoted as spans without bounds are, as long as the numbers of the
lines up to their last one can be told apart.
-/
namespace CodeStyle

namespace WordSpan

end WordSpan

namespace Excerpt

variable {file : String} {span : WordSpan}

/-- Whether lines can be numbered in words as far as a span goes, from a number on. -/
def FitsWords (span : WordSpan) (number : Nat) (items : List Line) : Prop :=
  span.stop.line.toNat + 1 < UInt32.size ∨ number + items.length ≤ UInt32.size

theorem FitsWords.tail {number : Nat} {item : Line} {items : List Line}
    (h : FitsWords span number (item :: items)) : FitsWords span (number + 1) items := by
  unfold FitsWords at *
  rw [List.length_cons] at h
  omega

end Excerpt

end CodeStyle

import CodeStyle.Proofs.Excerpt.Lines
import CodeStyle.Proofs.Text.Boundary

/-!
# What keeps a span from being quoted

A span that ends before it starts has no excerpt from any stream. Of all others the items of the
stream are looked at in order up to the last line of the span, and the first that is unreadable, or
from which the span cannot cut its columns, decides. Only if there is none does it matter whether
the stream has that many lines. What stands behind the last line of the span never does.
-/
namespace CodeStyle

namespace Span

end Span

namespace Excerpt

open Text

/-- The offsets between which a span cuts the line with a number. Lines inside a span are taken
whole, and nothing is taken from a last line if the span stops in its first column. -/
inductive Cuts (span : Span) (number : Nat) (line : List Char) : Nat → Nat → Prop
  | only (hfirst : number = span.start.line) (hlast : number = span.stop.line) :
      Cuts span number line (span.start.column - 1) span.stop.column
  | opening (hfirst : number = span.start.line) (hlast : number < span.stop.line) :
      Cuts span number line (span.start.column - 1) (byteLength line)
  | closing (hfirst : span.start.line < number) (hlast : number = span.stop.line)
      (hcolumn : span.stop.column ≠ 1) : Cuts span number line 0 span.stop.column

variable {file : String} {span : Span} {number : Nat} {line : List Char} {item : Line}
  {items : List Line} {e : CheckError}

section Step

theorem Cuts.start_le {first stop : Nat} (h : Cuts span number line first stop) :
    span.start.line ≤ number := by
  cases h <;> omega

end Step

section Run

end Run

end Excerpt

end CodeStyle

import CodeStyle.Regex.Basic

/-!
# Sizes of expressions

The bytes that an automaton for an expression takes, with every repetition written out. The size is
estimated: a state takes a fixed amount, and a set of characters takes more for each of its ranges,
a range beyond ASCII more than one within. What the estimate has to tell apart is an expression of
ordinary size and one whose repetitions multiply beyond all use.
-/
namespace CodeStyle.Regex

/-- The bytes of a state. -/
def stateBytes : Nat := 32

def asciiRangeBytes : Nat := 8

def wideRangeBytes : Nat := 48

/-- The bytes of the complement of a few characters. -/
def restBytes : Nat := 400

namespace CharSet

/-- The bytes that the ranges of a set take. -/
def bytes : CharSet → Nat
  | none => 0
  | all => restBytes
  | range _ last => if last.toNat < 128 then asciiRangeBytes else wideRangeBytes
  | category members =>
    wideRangeBytes * Unicode.GeneralCategory.labelling.countRuns members.contains
  | script code => wideRangeBytes * Unicode.Script.labelling.countRuns (· == code)
  | scriptUse code => wideRangeBytes * Unicode.Script.extensions.countRuns fun label =>
      Unicode.Script.inLabel code.toList label.toList
  | points set => wideRangeBytes * ((set.changes.size + 1) / 2)
  | union a b => bytes a + bytes b
  | inter a b => bytes a + bytes b
  | diff a b => bytes a + bytes b
  | symmDiff a b => bytes a + bytes b
  | compl a => bytes a + restBytes
  | anyCase a => bytes a
  | anyAsciiCase a => bytes a

end CharSet

namespace Expr

variable {α β : Type}

/-- The bytes of an expression whose character tests take given numbers of bytes. Every round that
a repetition may leave out adds a state for the choice. -/
def bytes (charBytes : α → Nat) : Expr α β → Nat
  | empty => stateBytes
  | char t => charBytes t
  | look _ => stateBytes
  | seq a b => a.bytes charBytes + b.bytes charBytes
  | alt a b => a.bytes charBytes + b.bytes charBytes + stateBytes
  | rep a min max =>
    let round := a.bytes charBytes
    match max with
    | none => (if min = 0 then 1 else min) * round + stateBytes
    | some n => min * round + (n - min) * (round + stateBytes) + stateBytes

end Expr

def maximumBytes : Nat := 10 * 1024 * 1024

/-- The size of an expression, in bytes. It is an estimate, so a comparison with `maximumBytes` is
approximate: near the limit an expression may be on the wrong side of it. -/
def size (r : Regex) : Nat := r.bytes fun set => stateBytes + set.bytes

end CodeStyle.Regex

import CodeStyle.Regex.Basic

/-!
# Search

Whether an expression matches somewhere in a text. A set of positions is a number with one bit per
position, so that a step of an expression moves all positions at once: a character test becomes
the set of positions before the characters that pass, and a step over it is a conjunction and a
shift. A repetition follows only the positions it has not reached before.
-/
namespace CodeStyle.Regex

/-- The set of the positions up to `size` that pass a test. -/
def positions (size : Nat) (p : Nat → Bool) : Nat :=
  (List.range (size + 1)).foldl (fun set i => if p i then set ||| (1 <<< i) else set) 0

/-- The members of a set that are not in another. -/
def without (a b : Nat) : Nat := a ^^^ (a &&& b)

def iterate (step : Nat → Nat) : Nat → Nat → Nat
  | 0, set => set
  | n + 1, set => if set = 0 then 0 else iterate step n (step set)

/-- What at most `n` steps reach, from what has been reached and what was reached last. -/
def reach (step : Nat → Nat) : Nat → Nat → Nat → Nat
  | 0, seen, _ => seen
  | n + 1, seen, last =>
    let next := without (step last) seen
    if next = 0 then seen else reach step n (seen ||| next) next

namespace Expr

/-- The positions that an expression reaches from a set of positions, for tests given as sets of
positions of a text of some size. -/
def advance (size : Nat) : Expr Nat Nat → Nat → Nat
  | empty, set => set
  | char test, set => (set &&& test) <<< 1
  | look test, set => set &&& test
  | seq a b, set => b.advance size (a.advance size set)
  | alt a b, set => a.advance size set ||| b.advance size set
  | rep a min max, set =>
    let start := iterate (a.advance size) min set
    reach (a.advance size) (match max with
      | none => size + 1
      | some n => n - min) start start

end Expr

/-- The tests of an expression as sets of positions of a text. -/
def onText (text : Array Char) (r : Regex) : Expr Nat Nat :=
  r.map (fun s => positions text.size fun i => (text[i]?).any s.contains)
    (fun l => positions text.size fun i => l.holds text i)

/-- Whether an expression matches somewhere in a text. -/
def isMatch (r : Regex) (text : List Char) : Bool :=
  let w := text.toArray
  (onText w r).advance w.size (positions w.size fun _ => true) != 0

end CodeStyle.Regex

/-!
# Run-length tables over code points

The character database is kept as text: a table of labels is a sequence of runs such as
`32Cc1Zs3Po`, a set is the sequence of the lengths of its gaps and runs in turn. Both are cut into
lines, decoded once and searched by bisection.
-/
namespace CodeStyle.Unicode

/-- The number of entries of an ascending array that are at most `x`, looked for between two
bounds. -/
def countLe (a : Array Nat) (x lo hi : Nat) : Nat :=
  if lo < hi then
    let mid := (lo + hi) / 2
    if a.getD mid 0 ≤ x then countLe a x (mid + 1) hi else countLe a x lo mid
  else lo
termination_by hi - lo

/-- A set of code points, given by the points at which membership changes. -/
structure CodeSet where
  changes : Array Nat

namespace CodeSet

/-- Membership holds after an odd number of changes. -/
def contains (s : CodeSet) (c : Char) : Bool :=
  countLe s.changes c.toNat 0 s.changes.size % 2 == 1

/-- The numbers of a text in which a blank stands between any two, the first of them with the value
of what has been read of it. -/
def readLengths (value : Nat) : List Char → List Nat
  | [] => [value]
  | c :: cs =>
    if c = ' ' then value :: readLengths 0 cs
    else readLengths (value * 10 + (c.toNat - '0'.toNat)) cs

/-- The points behind gaps and runs that follow one another. -/
def changesFrom (point : Nat) : List Nat → List Nat
  | [] => []
  | length :: rest => (point + length) :: changesFrom (point + length) rest

/-- Reads the lengths of gaps and runs, the first of them a gap from code point zero. -/
def ofLengths (lines : List String) : CodeSet :=
  ⟨(changesFrom 0 (readLengths 0 (lines.flatMap String.toList))).toArray⟩

end CodeSet

/-- A labelling of all code points: the start of each run and the label of that run. -/
structure Labelling where
  starts : Array Nat
  labels : Array String

namespace Labelling

def label (t : Labelling) (c : Char) : String :=
  t.labels.getD (countLe t.starts c.toNat 0 t.starts.size - 1) ""

/-- The number of runs with a label that passes a test. -/
def countRuns (t : Labelling) (p : String → Bool) : Nat :=
  t.labels.foldl (fun n label => if p label then n + 1 else n) 0

/-- What has been read of a run-length text: finished runs, the start of the current one, its
length so far and its label so far, the last character first. -/
structure Reading where
  done : Labelling
  start : Nat
  length : Nat
  name : List Char

def Reading.close (r : Reading) : Reading :=
  ⟨⟨r.done.starts.push r.start, r.done.labels.push (String.ofList r.name.reverse)⟩,
    r.start + r.length, 0, []⟩

/-- A digit after a label begins the next run. -/
def Reading.step (r : Reading) (c : Char) : Reading :=
  if c.isDigit then
    let r := if r.name.isEmpty then r else r.close
    { r with length := r.length * 10 + (c.toNat - '0'.toNat) }
  else { r with name := c :: r.name }

/-- Reads a sequence of runs, each a decimal length and a label of letters. -/
def ofRuns (lines : List String) : Labelling :=
  ((String.join lines).foldl Reading.step ⟨⟨#[], #[]⟩, 0, 0, []⟩).close.done

end Labelling

end CodeStyle.Unicode

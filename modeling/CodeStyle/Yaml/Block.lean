import CodeStyle.Yaml.Cursor

/-!
# Block scalars

Indented texts behind a bar or a greater-than sign. The header may give the depth of the
indentation and say whether the breaks at the end are dropped or kept; else the first line that is
not empty gives the depth and one break is kept. Behind a greater-than sign single breaks between
lines that start with neither a space nor a tab become spaces.
-/
namespace CodeStyle.Yaml.Block

/-- What becomes of the breaks at the end of a text. -/
inductive Ending
  | drop
  | one
  | keep
deriving DecidableEq, Repr

/-- The ending that a sign asks for. -/
def ending? (c : Cursor) : Option Ending :=
  match c.rest with
  | '+' :: _ => some .keep
  | '-' :: _ => some .drop
  | _ => none

/-- Reads the digit for the depth of indentation, none or one to nine. -/
def readDepth? (c : Cursor) : Option (Option Nat × Cursor) :=
  match c.rest with
  | x :: _ =>
    if !x.isDigit then some (none, c)
    else if x == '0' then none
    else some (some (x.toNat - '0'.toNat), c.skip 1)
  | [] => some (none, c)

/-- Reads the ending and the depth in either order. -/
def readHeader? (c : Cursor) : Option (Ending × Option Nat × Cursor) :=
  match ending? c with
  | some e => (readDepth? (c.skip 1)).map fun (depth, c) => (e, depth, c)
  | none =>
    match readDepth? c with
    | none => none
    | some (none, c) => some (.one, none, c)
    | some (some depth, c) =>
      match ending? c with
      | some e => some (e, some depth, c.skip 1)
      | none => some (.one, some depth, c)

/-- Reads empty lines and the indentation of the line behind them. Without a column the text starts
in the greatest column that is reached. Gives the breaks and the greatest column. -/
def readEmptyLines (column? : Option Nat) : (fuel : Nat) → (breaks : List Char) → (most : Nat) →
    Cursor → Option (List Char × Nat × Cursor)
  | 0, _, _, _ => none
  | fuel + 1, breaks, most, c =>
    let spaces := (c.rest.takeWhile (· == ' ')).length
    let c := c.skip (match column? with
      | some n => min spaces (n - c.column)
      | none => spaces)
    let most := max most c.column
    if (column?.all fun n => c.column < n) && c.looksAt '\t' then none
    else if c.looksAtAny isBreak then
      let (kept, next) := c.readBreak
      readEmptyLines column? fuel (breaks ++ kept) most next
    else some (breaks, most, c)

/-- The lines read so far, in reverse, with the break behind the last of them, the breaks of the
empty lines that follow, and whether the last line starts with a blank. -/
structure Lines where
  done : List Char := []
  lastBreak : List Char := []
  emptyBreaks : List Char := []
  startsBlank : Bool := false

namespace Lines

/-- The text in front of the next line, in reverse. -/
def joined (ls : Lines) (isLiteral nextBlank : Bool) : List Char :=
  let first :=
    if !isLiteral && ls.lastBreak == ['\n'] && !ls.startsBlank && !nextBlank then
      if ls.emptyBreaks.isEmpty then [' '] else []
    else ls.lastBreak
  ls.emptyBreaks.reverse ++ (first.reverse ++ ls.done)

/-- The whole text. -/
def close (ls : Lines) (e : Ending) : List Char :=
  let text := ls.done.reverse
  match e with
  | .drop => text
  | .one => text ++ ls.lastBreak
  | .keep => text ++ ls.lastBreak ++ ls.emptyBreaks

end Lines

/-- Reads the lines that start in a column. -/
def readLines (isLiteral : Bool) (column : Nat) : (fuel : Nat) → Lines → Cursor →
    Option (Lines × Cursor)
  | 0, _, _ => none
  | fuel + 1, ls, c =>
    if c.column = column && !c.rest.isEmpty then
      let nextBlank := c.looksAtAny isBlank
      let before := ls.joined isLiteral nextBlank
      let (line, c) := c.takeWhile (!isBreak ·)
      let (kept, c) := c.readBreak
      match readEmptyLines (some column) (c.rest.length + 1) [] 0 c with
      | some (breaks, _, c) =>
        readLines isLiteral column fuel ⟨line.reverse ++ before, kept, breaks, nextBlank⟩ c
      | none => none
    else some (ls, c)

/-- Reads a block scalar from its sign on, given the column of the collection around it, -1 if
there is none. -/
def read? (isLiteral : Bool) (outer : Int) (c : Cursor) : Option (List Char × Cursor) :=
  match readHeader? (c.skip 1) with
  | none => none
  | some (e, depth?, c) =>
    match c.endLine? with
    | none => none
    | some c =>
      let column? := depth?.map fun depth => (max outer 0).toNat + depth
      match readEmptyLines column? (c.rest.length + 1) [] 0 c with
      | none => none
      | some (breaks, most, c) =>
        let column := column?.getD (max (max most (outer + 1).toNat) 1)
        (readLines isLiteral column (c.rest.length + 1) { emptyBreaks := breaks } c).map
          fun (ls, c) => (ls.close e, c)

end CodeStyle.Yaml.Block

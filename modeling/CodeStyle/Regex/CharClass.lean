import CodeStyle.Regex.Atom

/-!
# Bracketed classes of a pattern

A class lists characters, ranges, named classes and further classes, and combines lists by
intersection, difference and symmetric difference, all of one rank and grouped from the left. The
classes that are still open are kept in a list of frames, innermost first.
-/
namespace CodeStyle.Regex

/-- A part of a class and how deeply it nests. -/
structure ClassPart where
  set : CharSet
  depth : Nat

/-- The operations between lists. -/
inductive ClassOp
  | inter
  | diff
  | symmDiff

/-- What is open: a class with the parts of the list around it, or an operation with its left
side. -/
inductive ClassFrame
  | bracket (around : List ClassPart) (negated : Bool)
  | op (op : ClassOp) (left : ClassPart)

/-- The union of parts, the last one first. -/
def unionOf : List ClassPart → ClassPart
  | [] => ⟨.none, 0⟩
  | [part] => part
  | parts =>
    ⟨parts.foldr (fun p s => .union p.set s) .none, (parts.map (·.depth)).foldl max 0 + 1⟩

/-- Applies an operation that waits for its right side. -/
def applyPending (f : Flags) (frames : List ClassFrame) (right : ClassPart) :
    ClassPart × List ClassFrame :=
  match frames with
  | .op op left :: outer =>
    let a := f.withCase left.set
    let b := f.withCase right.set
    (⟨match op with
      | .inter => .inter a b
      | .diff => .diff a b
      | .symmDiff => .symmDiff a b, max left.depth right.depth + 1⟩, outer)
  | frames => (right, frames)

/-- Reads the hyphens at the start of a class, from the first of them on. -/
def readHyphens (f : Flags) : (fuel : Nat) → List ClassPart → List Char →
    Option (List ClassPart × List Char)
  | 0, _, _ => none
  | fuel + 1, parts, '-' :: rest =>
    (next? f.verbose ('-' :: rest)).bind (readHyphens f fuel (⟨.single '-', 0⟩ :: parts))
  | _ + 1, parts, cs => some (parts, cs)

/-- Reads what a class starts with: hyphens, or a closing bracket that is meant literally if it
comes first. -/
def readClassStart (f : Flags) (negated : Bool) (cs : List Char) :
    Option (Bool × List ClassPart × List Char) :=
  (readHyphens f (cs.length + 1) [] cs).bind fun (parts, rest) =>
    match parts, rest with
    | [], ']' :: more =>
      (next? f.verbose (']' :: more)).map fun after => (negated, [⟨.single ']', 0⟩], after)
    | _, _ => some (negated, parts, rest)

/-- Reads what follows an opening bracket: a caret and the start of the class. The bracket itself
is the first character. -/
def readClassOpen (f : Flags) (cs : List Char) : Option (Bool × List ClassPart × List Char) :=
  match next? f.verbose cs with
  | some ('^' :: rest) => (next? f.verbose ('^' :: rest)).bind (readClassStart f true)
  | some rest => readClassStart f false rest
  | none => none

/-- Reads an ASCII class with a name between colons, from its opening bracket on. Anything else is
left to be read as a class of its own. -/
def readAsciiClass (f : Flags) (cs : List Char) : Option (Option CharSet × List Char) :=
  match cs with
  | '[' :: ':' :: rest =>
    let (negated, named) := match rest with
      | '^' :: more => (true, more)
      | _ => (false, rest)
    match named.span (· != ':') with
    | (name, ':' :: ']' :: after) =>
      (CharSet.asciiClass? (String.ofList name)).map fun s => (f.close? negated s, after)
    | _ => none
  | _ => none

def readClassItem (f : Flags) : List Char → Option (Atom × List Char)
  | [] => none
  | '\\' :: rest => readEscape f rest
  | c :: rest => some (.char c false, rest)

/-- The character of an item that can end a range. Byte mode admits ASCII alone. -/
def rangeEnd? (f : Flags) : Atom → Option Char
  | .char c _ => if f.byteMode && 127 < c.toNat then none else some c
  | _ => none

/-- The set of an item that stands alone. -/
def itemSet? (f : Flags) : Atom → Option CharSet
  | .char c twoDigits => (rangeEnd? f (.char c twoDigits)).map .single
  | .set s => some s
  | .look _ => none

/-- The character behind a hyphen, blanks and the sign of a comment skipped in verbose mode. -/
def peekBehind (verbose : Bool) : List Char → Option Char
  | [] => none
  | _ :: rest =>
    if verbose then
      match rest.dropWhile CharSet.space.contains with
      | '#' :: more => (more.dropWhile CharSet.space.contains).head?
      | cs => cs.head?
    else rest.head?

/-- Reads a character, a range or a named class. -/
def readClassRange (f : Flags) (cs : List Char) : Option (ClassPart × List Char) :=
  (readClassItem f cs).bind fun (first, rest) =>
    match skip f.verbose rest with
    | [] => none
    | '-' :: more =>
      if [some ']', some '-'].contains (peekBehind f.verbose ('-' :: more)) then
        (itemSet? f first).map fun s => (⟨s, 0⟩, '-' :: more)
      else (next? f.verbose ('-' :: more)).bind fun behind =>
        (readClassItem f behind).bind fun (last, after) =>
          match rangeEnd? f first, rangeEnd? f last with
          | some a, some b => if a ≤ b then some (⟨.range a b, 0⟩, after) else none
          | _, _ => none
    | after => (itemSet? f first).map fun s => (⟨s, 0⟩, after)

/-- Reads on with the parts of the innermost list, the last one first, until the outermost class
is closed. -/
def readClassParts (f : Flags) : (fuel : Nat) → List ClassFrame → List ClassPart → List Char →
    Option (ClassPart × List Char)
  | 0, _, _, _ => none
  | fuel + 1, frames, parts, cs =>
    let operation := fun (op : ClassOp) (rest : List Char) =>
      let (left, outer) := applyPending f frames (unionOf parts)
      readClassParts f fuel (.op op left :: outer) [] rest
    match skip f.verbose cs with
    | [] => none
    | '[' :: rest =>
      match frames, readAsciiClass f ('[' :: rest) with
      | _ :: _, some (some s, after) => readClassParts f fuel frames (⟨s, 0⟩ :: parts) after
      | _ :: _, some (none, _) => none
      | _, _ =>
        (readClassOpen f ('[' :: rest)).bind fun (negated, inner, after) =>
          readClassParts f fuel (.bracket parts negated :: frames) inner after
    | ']' :: rest =>
      match applyPending f frames (unionOf parts) with
      | (whole, .bracket around negated :: outer) =>
        (f.close? negated whole.set).bind fun s =>
          let closed : ClassPart := ⟨s, whole.depth + 1⟩
          if outer.isEmpty then some (closed, rest)
          else readClassParts f fuel outer (closed :: around) rest
      | _ => none
    | '&' :: '&' :: rest => operation .inter rest
    | '-' :: '-' :: rest => operation .diff rest
    | '~' :: '~' :: rest => operation .symmDiff rest
    | other => (readClassRange f other).bind fun (part, after) =>
        readClassParts f fuel frames (part :: parts) after

def readClass (f : Flags) (cs : List Char) : Option (ClassPart × List Char) :=
  readClassParts f (cs.length + 1) [] [] cs

end CodeStyle.Regex

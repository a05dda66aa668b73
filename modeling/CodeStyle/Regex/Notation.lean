import CodeStyle.Regex.CharClass

/-!
# Patterns

Reads the notation of patterns into an expression. The groups that are still open are kept in a
list of frames, innermost first; flags that a group switches end with it. A pattern is refused if
it is malformed or nests too deeply.
-/
namespace CodeStyle.Regex

/-- A part of a pattern, how deeply it nests, and whether a repetition may follow it. -/
structure Part where
  expr : Regex
  depth : Nat
  repeatable : Bool := true

/-- The alternatives of a group that have been read and the parts of the one being read, the last
one first. -/
structure Group where
  branches : List Part
  parts : List Part

/-- The deepest nesting among parts. -/
def deepest (parts : List Part) : Nat := (parts.map (·.depth)).foldl max 0

namespace Group

/-- A group of which nothing has been read. -/
def start : Group := ⟨[], []⟩

/-- The alternative being read. -/
def branch (g : Group) : Part :=
  match g.parts with
  | [] => ⟨.empty, 0, true⟩
  | [part] => part
  | parts => ⟨.seqs (parts.reverse.map (·.expr)), deepest parts + 1, true⟩

/-- All that has been read. -/
def whole (g : Group) : Part :=
  match g.branches with
  | [] => g.branch
  | branches =>
    let all := (g.branch :: branches).reverse
    ⟨.alts (all.map (·.expr)), deepest all + 1, true⟩

/-- Begins the next alternative. -/
def nextBranch (g : Group) : Group := ⟨g.branch :: g.branches, []⟩

def push (g : Group) (part : Part) : Group := ⟨g.branches, part :: g.parts⟩

def repeatLast? (g : Group) (min : Nat) (max : Option Nat) : Option Group :=
  match g.parts with
  | part :: parts =>
    if part.repeatable then
      some ⟨g.branches, ⟨.rep part.expr min max, part.depth + 1, true⟩ :: parts⟩
    else none
  | [] => none

end Group

/-- An open group around the one being read, with the flags to come back to. -/
structure GroupFrame where
  group : Group
  flags : Flags

structure Reading where
  frames : List GroupFrame
  group : Group
  flags : Flags
  names : List (List Char)

/-- Drops the mark of a repetition that prefers few rounds. -/
def skipLazy : List Char → List Char
  | '?' :: rest => rest
  | cs => cs

/-- Whether a character can be part of the name of a group. -/
def isGroupName (first : Bool) (c : Char) : Bool :=
  c == '_' || Unicode.Property.alphabetic.contains c ||
    (!first && (c == '.' || c == '[' || c == ']' ||
      ["Nd", "Nl", "No"].contains (Unicode.GeneralCategory.ofChar c)))

/-- Reads the name of a group up to its closing angle bracket. -/
def readGroupName (taken : List Char) : List Char → Option (List Char × List Char)
  | [] => none
  | c :: rest =>
    if c = '>' then if taken.isEmpty then none else some (taken.reverse, rest)
    else if isGroupName taken.isEmpty c then readGroupName (c :: taken) rest
    else none

def Reading.enter (r : Reading) (flags : Flags) : Reading :=
  { r with frames := ⟨r.group, r.flags⟩ :: r.frames, group := .start, flags := flags }

/-- Opens a group with a name that no other group has. -/
def Reading.enterNamed? (r : Reading) (cs : List Char) : Option (Reading × List Char) :=
  (readGroupName [] cs).bind fun (name, rest) =>
    if r.names.contains name then none
    else some ({ r with names := name :: r.names }.enter r.flags, rest)

/-- Reads what follows an opening parenthesis: a group of some kind or a switch of flags. Looking
around is not supported. -/
def Reading.openGroup? (r : Reading) (cs : List Char) : Option (Reading × List Char) :=
  match skip r.flags.verbose cs with
  | '?' :: '=' :: _ => none
  | '?' :: '!' :: _ => none
  | '?' :: '<' :: '=' :: _ => none
  | '?' :: '<' :: '!' :: _ => none
  | '?' :: 'P' :: '<' :: rest => r.enterNamed? rest
  | '?' :: '<' :: rest => r.enterNamed? rest
  | '?' :: rest =>
    (Flags.read? r.flags [] true rest).bind fun (flags, count, closing, after) =>
      if closing = ':' then some (r.enter flags, after)
      else if count = 0 then none
      else some ({ r with group := r.group.push ⟨.empty, 0, false⟩, flags := flags }, after)
  | rest => some (r.enter r.flags, rest)

/-- Reads a repetition with counts, from its opening brace on. -/
def Reading.repeat? (r : Reading) (cs : List Char) : Option (Reading × List Char) :=
  let verbose := r.flags.verbose
  let finish := fun (min : Nat) (max : Option Nat) (cs : List Char) =>
    match cs with
    | '}' :: rest =>
      if max.any (· < min) then none
      else (r.group.repeatLast? min max).map fun g =>
        ({ r with group := g }, skipLazy (skip verbose rest))
    | _ => none
  (next? verbose cs).bind fun inside =>
    match readDecimal verbose inside with
    | (.value min, ',' :: rest) =>
      (next? verbose (',' :: rest)).bind fun behind =>
        match behind with
        | '}' :: _ => finish min none behind
        | _ => match readDecimal verbose behind with
          | (.value max, after) => finish min (some max) after
          | _ => none
    | (.value count, rest) => finish count (some count) rest
    | _ => none

/-- Reads a part that is no group, class or repetition. -/
def Reading.readAtom? (r : Reading) : List Char → Option (Regex × List Char)
  | [] => none
  | '\\' :: rest =>
    (readEscape r.flags rest).bind fun (atom, after) =>
      match atom with
      | .char c twoDigits => (charSet? r.flags c twoDigits).map fun s => (.char s, after)
      | .set s => some (.char s, after)
      | .look l => some (.look l, after)
  | '.' :: rest => r.flags.dot?.map fun s => (.char s, rest)
  | '^' :: rest => some (.look r.flags.caret, rest)
  | '$' :: rest => some (.look r.flags.dollar, rest)
  | c :: rest => (charSet? r.flags c false).map fun s => (.char s, rest)

/-- One step of reading: takes one or more characters. -/
def Reading.step? (r : Reading) : List Char → Option (Reading × List Char)
  | [] => none
  | '(' :: rest => r.openGroup? rest
  | ')' :: rest =>
    match r.frames with
    | [] => none
    | frame :: frames =>
      let inner := r.group.whole
      some ({ r with
        frames := frames
        group := frame.group.push ⟨inner.expr, inner.depth + 1, true⟩
        flags := frame.flags }, rest)
  | '|' :: rest => some ({ r with group := r.group.nextBranch }, rest)
  | '[' :: rest =>
    (readClass r.flags ('[' :: rest)).map fun (part, after) =>
      ({ r with group := r.group.push ⟨.char part.set, part.depth, true⟩ }, after)
  | '?' :: rest =>
    (r.group.repeatLast? 0 (some 1)).map fun g => ({ r with group := g }, skipLazy rest)
  | '*' :: rest => (r.group.repeatLast? 0 none).map fun g => ({ r with group := g }, skipLazy rest)
  | '+' :: rest => (r.group.repeatLast? 1 none).map fun g => ({ r with group := g }, skipLazy rest)
  | '{' :: rest => r.repeat? ('{' :: rest)
  | cs => (r.readAtom? cs).map fun (e, after) =>
      ({ r with group := r.group.push ⟨e, 0, true⟩ }, after)

/-- Reads to the end of a pattern, where no group may be open. -/
def readParts : (fuel : Nat) → Reading → List Char → Option Part
  | 0, _, _ => none
  | fuel + 1, r, cs =>
    match skip r.flags.verbose cs with
    | [] => if r.frames.isEmpty then some r.group.whole else none
    | rest => (r.step? rest).bind fun (r, after) => readParts fuel r after

def maximumDepth : Nat := 250

def read? (pattern : List Char) : Option Regex :=
  (readParts (pattern.length + 1) ⟨[], .start, {}, []⟩ pattern).bind fun part =>
    if part.depth ≤ maximumDepth then some part.expr else none

end CodeStyle.Regex

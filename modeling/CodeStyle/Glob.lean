/-!
# Globs

Patterns for paths: `?` stands for any character, `*` for any text, separators included, a bracket
for one of its characters, and `**` as a whole component for nothing, for any text that ends with a
separator, or for all that is left.
-/
namespace CodeStyle

/-- A pattern for paths, one item after the other. -/
inductive GlobItem
  | char (c : Char)
  | anyChar
  | anyText
  | anyDirs
  | oneOf (ranges : List (Char × Char))
  | noneOf (ranges : List (Char × Char))
deriving DecidableEq, Repr

/-- Why a glob is refused. -/
inductive GlobReason
  | wildcards
  | recursive
  | range
deriving DecidableEq, Repr

/-- Why a glob is refused, and at which of its characters. -/
structure GlobFault where
  position : Nat
  reason : GlobReason
deriving DecidableEq, Repr

namespace GlobFault

def message (f : GlobFault) : String :=
  s!"Pattern syntax error near position {f.position}: " ++ match f.reason with
    | .wildcards => "wildcards are either regular `*` or recursive `**`"
    | .recursive => "recursive wildcards must form a single path component"
    | .range => "invalid range pattern"

end GlobFault

namespace Glob

/-- The ranges that the inside of a bracket lists. -/
def ranges : List Char → List (Char × Char)
  | a :: '-' :: b :: rest => (a, b) :: ranges rest
  | a :: rest => (a, a) :: ranges rest
  | [] => []

def inRanges (rs : List (Char × Char)) (c : Char) : Bool :=
  rs.any fun r => decide (r.1 ≤ c) && decide (c ≤ r.2)

/-- What stands in front of the next closing bracket, and what follows it. -/
def cutBracket (taken : List Char) : List Char → Option (List Char × List Char)
  | [] => none
  | ']' :: rest => some (taken.reverse, rest)
  | c :: rest => cutBracket (c :: taken) rest

/-- Reads a bracket, from behind its opening bracket on. The first character inside, or the first
behind a `!`, does not close it. -/
def readBracket : List Char → Option (GlobItem × List Char)
  | '!' :: first :: rest => (cutBracket [first] rest).map fun (inside, after) =>
      (.noneOf (ranges inside), after)
  | '!' :: [] => none
  | first :: rest => (cutBracket [first] rest).map fun (inside, after) =>
      (.oneOf (ranges inside), after)
  | [] => none

/-- Adds a recursive wildcard, unless it follows another one that is not the first item. -/
def pushDirs (items : List GlobItem) : List GlobItem :=
  match items with
  | .anyDirs :: _ :: _ => items
  | _ => .anyDirs :: items

/-- Reads two stars that start at a position. They have to be a whole component. -/
def readDirs (position : Nat) (previous : Option Char) (items : List GlobItem)
    (rest : List Char) : Except GlobFault (List GlobItem × Nat × List Char) :=
  match previous with
  | none | some '/' =>
    match rest with
    | '/' :: after => .ok (pushDirs items, position + 3, after)
    | [] => .ok (pushDirs items, position + 2, [])
    | _ => .error ⟨position + 2, .recursive⟩
  | some _ => .error ⟨position - 1, .recursive⟩

/-- Reads on from a position, given the character before it and the items so far, the last one
first. -/
def readItems : (fuel : Nat) → (position : Nat) → (previous : Option Char) →
    (items : List GlobItem) → List Char → Except GlobFault (List GlobItem)
  | 0, _, _, items, _ => .ok items.reverse
  | _ + 1, _, _, items, [] => .ok items.reverse
  | fuel + 1, position, _, items, '?' :: rest =>
    readItems fuel (position + 1) (some '?') (.anyChar :: items) rest
  | fuel + 1, position, previous, items, '*' :: rest =>
    let more := (rest.takeWhile (· == '*')).length
    let after := rest.dropWhile (· == '*')
    if 1 < more then .error ⟨position + 2, .wildcards⟩
    else if more = 1 then
      match readDirs position previous items after with
      | .ok (items, position, after) => readItems fuel position (some '/') items after
      | .error fault => .error fault
    else readItems fuel (position + 1) (some '*') (.anyText :: items) after
  | fuel + 1, position, _, items, '[' :: rest =>
    match readBracket rest with
    | some (item, after) =>
      readItems fuel (position + 1 + rest.length - after.length) (some ']') (item :: items) after
    | none => .error ⟨position, .range⟩
  | fuel + 1, position, _, items, c :: rest =>
    readItems fuel (position + 1) (some c) (.char c :: items) rest

def read (pattern : String) : Except GlobFault (List GlobItem) :=
  readItems (pattern.length + 1) 0 none [] pattern.toList

/-- Whether a test passes for a text or for what is left behind some of its characters. -/
def atSomeSuffix (p : List Char → Bool) : List Char → Bool
  | [] => p []
  | c :: cs => p (c :: cs) || atSomeSuffix p cs

/-- Whether a test passes for what is left behind some separator or at the end. -/
def behindSomeSeparator (p : List Char → Bool) : List Char → Bool
  | [] => p []
  | c :: cs => (c == '/' && p cs) || behindSomeSeparator p cs

/-- Whether a test passes for the first character and another for what follows it. -/
def firstThen (p : Char → Bool) (q : List Char → Bool) : List Char → Bool
  | [] => false
  | c :: cs => p c && q cs

/-- Whether items match a whole text. -/
def accepts : List GlobItem → List Char → Bool
  | [], text => text.isEmpty
  | .char c :: items, text => firstThen (· == c) (accepts items) text
  | .anyChar :: items, text => firstThen (fun _ => true) (accepts items) text
  | .oneOf rs :: items, text => firstThen (inRanges rs) (accepts items) text
  | .noneOf rs :: items, text => firstThen (fun c => !inRanges rs c) (accepts items) text
  | .anyText :: items, text => atSomeSuffix (accepts items) text
  | .anyDirs :: items, text => accepts items text || behindSomeSeparator (accepts items) text

end Glob

end CodeStyle

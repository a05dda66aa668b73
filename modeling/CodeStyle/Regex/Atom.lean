import CodeStyle.Regex.Flags
import CodeStyle.Text.Quoted

/-!
# Single items of a pattern

Characters, escapes, classes with a name and positions. Reading an item gives it with what follows
it in the pattern; a pattern that is refused gives nothing.
-/
namespace CodeStyle.Regex

open Text (hexValue? hexNumber? charOf?)

/-- Drops a comment up to and including its line feed. -/
def skipComment : List Char → List Char
  | [] => []
  | c :: cs => if c = '\n' then cs else skipComment cs

theorem skipComment_length (cs : List Char) : (skipComment cs).length ≤ cs.length := by
  induction cs with
  | nil => simp [skipComment]
  | cons c cs ih => simp only [skipComment]; split <;> simp_all; omega

/-- Drops white space and comments, which verbose mode ignores. -/
def skip (verbose : Bool) (cs : List Char) : List Char :=
  if verbose then
    match cs with
    | [] => []
    | c :: rest =>
      if CharSet.space.contains c then skip verbose rest
      else if c = '#' then skip verbose (skipComment rest)
      else c :: rest
  else cs
termination_by cs.length
decreasing_by
  · simp
  · have := skipComment_length rest; simp; omega

/-- What follows the first character, ignored characters dropped, if anything is left. -/
def next? (verbose : Bool) : List Char → Option (List Char)
  | [] => none
  | _ :: rest =>
    match skip verbose rest with
    | [] => none
    | cs => some cs

/-- An item: a character, with the mark of one written as two hexadecimal digits, a set, or a
position. -/
inductive Atom
  | char (c : Char) (twoDigits : Bool)
  | set (s : CharSet)
  | look (l : Look)

/-- Reads `count` hexadecimal digits from where the first of them stands. -/
def readHexDigits (verbose : Bool) :
    (count value : Nat) → List Char → Option (Nat × List Char)
  | 0, value, cs => some (value, cs)
  | 1, value, c :: rest => (hexValue? c).map fun d => (value * 16 + d, skip verbose rest)
  | count + 2, value, c :: rest =>
    match hexValue? c, next? verbose (c :: rest) with
    | some d, some cs => readHexDigits verbose (count + 1) (value * 16 + d) cs
    | _, _ => none
  | _, _, [] => none

/-- Reads the characters between braces, from the opening brace on, ignored characters dropped. -/
def readBraced (verbose : Bool) : (fuel : Nat) → (taken : List Char) → List Char →
    Option (List Char × List Char)
  | 0, _, _ => none
  | fuel + 1, taken, cs =>
    match next? verbose cs with
    | some ('}' :: rest) => some (taken.reverse, rest)
    | some (c :: rest) => readBraced verbose fuel (c :: taken) (c :: rest)
    | _ => none

/-- Reads a character written by its number, from the letter that announces it on. -/
def readHex (verbose : Bool) (letter : Char) (cs : List Char) : Option (Atom × List Char) :=
  match next? verbose cs with
  | some ('{' :: rest) =>
    (readBraced verbose (rest.length + 1) [] ('{' :: rest)).bind fun (digits, after) =>
      if digits.isEmpty then none
      else ((hexNumber? digits).bind charOf?).map fun c => (.char c false, skip verbose after)
  | some digits =>
    let count := if letter = 'x' then 2 else if letter = 'u' then 4 else 8
    (readHexDigits verbose count 0 digits).bind fun (n, after) =>
      (charOf? n).map fun c => (.char c (letter = 'x'), after)
  | none => none

/-- What stands before and behind the first occurrence of a sign of one character. -/
def cutAt (sign : Char) (cs : List Char) : Option (List Char × List Char) :=
  match cs.span (· != sign) with
  | (before, _ :: after) => some (before, after)
  | _ => none

/-- What stands before and behind the first sign of inequality. -/
def cutAtUnequal (before : List Char) : List Char → Option (List Char × List Char)
  | '!' :: '=' :: after => some (before.reverse, after)
  | c :: after => cutAtUnequal (c :: before) after
  | [] => none

/-- The class that a name between braces stands for, and whether it is meant to be negated. -/
def classOfName? (name : List Char) : Option (CharSet × Bool) :=
  match cutAtUnequal [] name with
  | some (p, v) => (CharSet.ofValue? p v).map (·, true)
  | none =>
    match (cutAt ':' name).or (cutAt '=' name) with
    | some (p, v) => (CharSet.ofValue? p v).map (·, false)
    | none => (CharSet.ofName? name).map (·, false)

/-- Reads a class of the character database, from the letter `p` or `P` on. -/
def readNamedClass (f : Flags) (negated : Bool) (cs : List Char) : Option (Atom × List Char) :=
  let finish := fun (name : List Char) (after : List Char) =>
    if f.byteMode then none
    else (classOfName? name).bind fun (s, unequal) =>
      (f.close? (negated != unequal) s).map fun s => (Atom.set s, after)
  match next? f.verbose cs with
  | some ('{' :: rest) =>
    (readBraced f.verbose (rest.length + 1) [] ('{' :: rest)).bind fun (name, after) =>
      finish name after
  | some ('\\' :: _) => none
  | some (c :: rest) => finish [c] (skip f.verbose rest)
  | _ => none

/-- Digits, white space or words, as a letter names them. -/
def perlClass? (f : Flags) (letter : Char) : Option CharSet :=
  let s := match letter.toLower with
    | 'd' => if f.byteMode then CharSet.asciiDigit else CharSet.digit
    | 's' => if f.byteMode then CharSet.asciiSpace else CharSet.space
    | _ => if f.byteMode then CharSet.asciiWord else CharSet.word
  if letter.isUpper then if f.byteMode then none else some (.compl s) else some s

/-- Characters with a meaning of their own in patterns; escaped they stand for themselves. -/
def isMeta (c : Char) : Bool :=
  ['\\', '.', '+', '*', '?', '(', ')', '|', '[', ']', '{', '}', '^', '$', '#', '&', '-',
    '~'].contains c

/-- ASCII characters that stand for themselves when escaped. -/
def isEscapable (c : Char) : Bool :=
  isMeta c || (c.toNat < 128 && !c.isAlphanum && c != '<' && c != '>')

/-- Whether a character can be part of the name of a kind of word boundary. -/
def isEdgeName (c : Char) : Bool := c.isAlpha || c == '-'

/-- Reads the name of a kind of word boundary up to its closing brace. -/
def readEdgeName (verbose : Bool) : (fuel : Nat) → (taken : List Char) → List Char →
    Option (List Char × List Char)
  | 0, _, _ => none
  | _ + 1, _, [] => none
  | fuel + 1, taken, c :: rest =>
    if isEdgeName c then readEdgeName verbose fuel (c :: taken) (skip verbose rest)
    else if c = '}' then some (taken.reverse, rest)
    else none

/-- Reads what may follow a word boundary: a kind between braces, or nothing. Braces that do not
start like a kind are left to be read as a repetition. -/
def readEdge (f : Flags) (cs : List Char) : Option (Look × List Char) :=
  match cs with
  | '{' :: rest =>
    match next? f.verbose cs with
    | none => none
    | some inside =>
      if (inside.head?.map isEdgeName).getD false then
        (readEdgeName f.verbose (inside.length + 1) [] inside).bind fun (name, after) =>
          match String.ofList name with
          | "start" => some (.wordStart f.byteMode, after)
          | "end" => some (.wordEnd f.byteMode, after)
          | "start-half" => some (.wordStartHalf f.byteMode, after)
          | "end-half" => some (.wordEndHalf f.byteMode, after)
          | _ => none
      else some (.wordEdge f.byteMode, '{' :: rest)
  | _ => some (.wordEdge f.byteMode, cs)

/-- Reads an escape, from the character behind the backslash on. -/
def readEscape (f : Flags) : List Char → Option (Atom × List Char)
  | [] => none
  | c :: rest =>
    if c.isDigit then none
    else if c = 'x' || c = 'u' || c = 'U' then readHex f.verbose c (c :: rest)
    else if c = 'p' || c = 'P' then readNamedClass f (c = 'P') (c :: rest)
    else if ['d', 's', 'w', 'D', 'S', 'W'].contains c then
      (perlClass? f c).map fun s => (.set s, rest)
    else if isEscapable c then some (.char c false, rest)
    else match c with
      | 'a' => some (.char '\x07' false, rest)
      | 'f' => some (.char '\x0c' false, rest)
      | 't' => some (.char '\t' false, rest)
      | 'n' => some (.char '\n' false, rest)
      | 'r' => some (.char '\r' false, rest)
      | 'v' => some (.char '\x0b' false, rest)
      | 'A' => some (.look .textStart, rest)
      | 'z' => some (.look .textEnd, rest)
      | 'b' => (readEdge f rest).map fun (l, after) => (.look l, after)
      | 'B' => some (.look (.wordInside f.byteMode), rest)
      | '<' => some (.look (.wordStart f.byteMode), rest)
      | '>' => some (.look (.wordEnd f.byteMode), rest)
      | _ => none

/-- The character set of one character. In byte mode a character beyond ASCII can be written as
itself but not as a byte. -/
def charSet? (f : Flags) (c : Char) (twoDigits : Bool) : Option CharSet :=
  if f.byteMode && twoDigits && 127 < c.toNat then none else some (f.withCase (.single c))

def readDigits (verbose : Bool) : (fuel : Nat) → (taken : List Char) → List Char →
    List Char × List Char
  | 0, taken, cs => (taken, cs)
  | _ + 1, taken, [] => (taken, [])
  | fuel + 1, taken, c :: rest =>
    if c.isDigit then readDigits verbose fuel (c :: taken) (skip verbose rest)
    else (taken, c :: rest)

/-- Drops white space, and comments behind it in verbose mode. -/
def skipBlanks (verbose : Bool) : (fuel : Nat) → List Char → List Char
  | 0, cs => cs
  | _ + 1, [] => []
  | fuel + 1, c :: rest =>
    if CharSet.space.contains c then skipBlanks verbose fuel (skip verbose rest) else c :: rest

/-- A decimal number as it is read: none at all, one too large for 32 bits, or a value. -/
inductive Decimal
  | absent
  | tooLarge
  | value (n : Nat)

/-- Reads a decimal number, blanks around it ignored. -/
def readDecimal (verbose : Bool) (cs : List Char) : Decimal × List Char :=
  let start := cs.dropWhile CharSet.space.contains
  let (taken, rest) := readDigits verbose start.length [] start
  let value := taken.foldr (fun c n => n * 10 + (c.toNat - '0'.toNat)) 0
  (if taken.isEmpty then .absent else if 0xffffffff < value then .tooLarge else .value value,
    skipBlanks verbose rest.length rest)

end CodeStyle.Regex

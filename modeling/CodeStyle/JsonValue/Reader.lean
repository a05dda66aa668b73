import CodeStyle.JsonValue.Basic
import CodeStyle.Text.Quoted

/-!
# Reading JSON

The strict form of the data format: no comments, no commas at the end of lists, no control
characters in texts and no halves of surrogate pairs.
-/
namespace CodeStyle.JsonValue

def isSpace (c : Char) : Bool := [' ', '\n', '\t', '\r'].contains c

/-- A text without the white space at its start. -/
def skipSpace (cs : List Char) : List Char := cs.dropWhile isSpace

/-- What follows a word at the start of a text. -/
def afterWord? (word : String) (cs : List Char) : Option (List Char) :=
  if word.toList.isPrefixOf cs then some (cs.drop word.length) else none

/-- The character of an escape by number, behind its letter, and what follows it. Two numbers make
up one character beyond the first 65536. -/
def readNumberEscape? (cs : List Char) : Option (Char × List Char) :=
  match Text.hexPrefix? 4 cs with
  | none => none
  | some high =>
    let rest := cs.drop 4
    if 0xd800 ≤ high ∧ high < 0xdc00 then
      match (afterWord? "\\u" rest).bind (Text.hexPrefix? 4) with
      | some low =>
        if 0xdc00 ≤ low ∧ low < 0xe000 then
          some (Char.ofNat (0x10000 + (high - 0xd800) * 0x400 + (low - 0xdc00)), rest.drop 6)
        else none
      | none => none
    else (Text.charOf? high).map fun c => (c, rest)

/-- The character of an escape, behind its backslash, and what follows it. -/
def readEscape? : List Char → Option (Char × List Char)
  | '"' :: rest => some ('"', rest)
  | '\\' :: rest => some ('\\', rest)
  | '/' :: rest => some ('/', rest)
  | 'b' :: rest => some ('\x08', rest)
  | 'f' :: rest => some ('\x0c', rest)
  | 'n' :: rest => some ('\n', rest)
  | 'r' :: rest => some ('\r', rest)
  | 't' :: rest => some ('\t', rest)
  | 'u' :: rest => readNumberEscape? rest
  | _ => none

/-- Reads a text up to its closing quote, behind what has been read of it, in reverse. -/
def readString : (fuel : Nat) → (done : List Char) → List Char → Option (String × List Char)
  | 0, _, _ => none
  | _, _, [] => none
  | fuel + 1, done, c :: rest =>
    if c == '"' then some (String.ofList done.reverse, rest)
    else if c == '\\' then
      match readEscape? rest with
      | some (x, rest) => readString fuel (x :: done) rest
      | none => none
    else if c.toNat < 0x20 then none
    else readString fuel (c :: done) rest

/-- The digits at the start of a text, at least one, and what follows them. -/
def readDigits? (cs : List Char) : Option (List Char × List Char) :=
  match cs.span Char.isDigit with
  | ([], _) => none
  | (digits, rest) => some (digits, rest)

/-- The whole part of a number. A zero stands alone. -/
def readWhole? : List Char → Option (List Char × List Char)
  | '0' :: rest => if rest.head?.any Char.isDigit then none else some (['0'], rest)
  | cs => readDigits? cs

def readFraction? : List Char → Option (List Char × List Char)
  | '.' :: rest => (readDigits? rest).map fun (digits, rest) => ('.' :: digits, rest)
  | cs => some ([], cs)

def readExponent? : List Char → Option (List Char × List Char)
  | [] => some ([], [])
  | e :: rest =>
    if e == 'e' || e == 'E' then
      let (sign, rest) := match rest with
        | '+' :: rest => (['+'], rest)
        | '-' :: rest => (['-'], rest)
        | rest => ([], rest)
      (readDigits? rest).map fun (digits, rest) => (e :: (sign ++ digits), rest)
    else some ([], e :: rest)

def readNumber? (cs : List Char) : Option (JsonValue × List Char) :=
  let (sign, cs) := match cs with
    | '-' :: rest => (['-'], rest)
    | cs => ([], cs)
  match readWhole? cs with
  | none => none
  | some (whole, cs) =>
    match readFraction? cs with
    | none => none
    | some (fraction, cs) =>
      (readExponent? cs).map fun (exponent, cs) =>
        (number (String.ofList (sign ++ whole ++ fraction ++ exponent)), cs)

mutual

/-- Reads a value behind white space. -/
def readValue : (fuel : Nat) → List Char → Option (JsonValue × List Char)
  | 0, _ => none
  | fuel + 1, cs =>
    match skipSpace cs with
    | 'n' :: rest => (afterWord? "ull" rest).map fun rest => (null, rest)
    | 't' :: rest => (afterWord? "rue" rest).map fun rest => (bool true, rest)
    | 'f' :: rest => (afterWord? "alse" rest).map fun rest => (bool false, rest)
    | '"' :: rest =>
      (readString (rest.length + 1) [] rest).map fun (s, rest) => (string s, rest)
    | '[' :: rest =>
      match skipSpace rest with
      | ']' :: rest => some (array [], rest)
      | rest => (readItems fuel rest).map fun (items, rest) => (array items, rest)
    | '{' :: rest =>
      match skipSpace rest with
      | '}' :: rest => some (object [], rest)
      | rest => (readFields fuel rest).map fun (fields, rest) => (object fields, rest)
    | cs => readNumber? cs

/-- Reads the items of an array up to its end. -/
def readItems : (fuel : Nat) → List Char → Option (List JsonValue × List Char)
  | 0, _ => none
  | fuel + 1, cs =>
    match readValue fuel cs with
    | none => none
    | some (v, cs) =>
      match skipSpace cs with
      | ',' :: rest => (readItems fuel rest).map fun (vs, rest) => (v :: vs, rest)
      | ']' :: rest => some ([v], rest)
      | _ => none

/-- Reads the fields of an object up to its end. -/
def readFields : (fuel : Nat) → List Char → Option (List (String × JsonValue) × List Char)
  | 0, _ => none
  | fuel + 1, cs =>
    match readField fuel cs with
    | none => none
    | some (field, cs) =>
      match skipSpace cs with
      | ',' :: rest => (readFields fuel rest).map fun (fields, rest) => (field :: fields, rest)
      | '}' :: rest => some ([field], rest)
      | _ => none

def readField : (fuel : Nat) → List Char → Option ((String × JsonValue) × List Char)
  | 0, _ => none
  | fuel + 1, cs =>
    match skipSpace cs with
    | '"' :: rest =>
      match readString (rest.length + 1) [] rest with
      | none => none
      | some (key, rest) =>
        match skipSpace rest with
        | ':' :: rest => (readValue fuel rest).map fun (v, rest) => ((key, v), rest)
        | _ => none
    | _ => none

end

def read? (text : List Char) : Option JsonValue :=
  match readValue (2 * text.length + 2) text with
  | some (v, rest) => if (skipSpace rest).isEmpty then some v else none
  | none => none

end CodeStyle.JsonValue

/-!
# Cursors

A cursor is a place in a document with the text that follows it. Line breaks are a carriage return
with a line feed, either of them alone, and three further characters; the first column is zero.
-/
namespace CodeStyle.Yaml

def isBreak (c : Char) : Bool := ['\r', '\n', '\u0085', '\u2028', '\u2029'].contains c

/-- Whether a character is a space or a tab. -/
def isBlank (c : Char) : Bool := c == ' ' || c == '\t'

def isSpace (c : Char) : Bool := isBlank c || isBreak c

/-- Whether a character belongs to the names of anchors, handles and directives. -/
def isNameChar (c : Char) : Bool := c.isAlphanum || c == '_' || c == '-'

/-- Whether a character may occur in a document. -/
def isPrintable (c : Char) : Bool :=
  let n := c.toNat
  c == '\t' || c == '\n' || c == '\r' || (0x20 ≤ n && n ≤ 0x7e) || n == 0x85 ||
    (0xa0 ≤ n && n ≤ 0xfffd && n != 0xfeff) || 0x10000 ≤ n

/-- A place in a document. The index counts characters. -/
structure Cursor where
  rest : List Char
  index : Nat := 0
  line : Nat := 0
  column : Nat := 0

namespace Cursor

/-- The character at a distance. -/
def at? (c : Cursor) (n : Nat) : Option Char := c.rest[n]?

/-- Whether a character stands at the cursor. -/
def looksAt (c : Cursor) (x : Char) : Bool := c.rest.head? == some x

/-- Whether a character of a class stands at the cursor. -/
def looksAtAny (c : Cursor) (p : Char → Bool) : Bool := c.rest.head?.any p

/-- Whether nothing, a blank or a break stands at a distance. -/
def isClear (c : Cursor) (n : Nat) : Bool := (c.at? n).all isSpace

/-- The place behind some characters of the same line. -/
def skip (c : Cursor) (n : Nat) : Cursor :=
  ⟨c.rest.drop n, c.index + n, c.line, c.column + n⟩

/-- The break at the cursor as it is kept in texts, and the place behind it. -/
def readBreak (c : Cursor) : List Char × Cursor :=
  match c.rest with
  | '\r' :: '\n' :: rest => (['\n'], ⟨rest, c.index + 2, c.line + 1, 0⟩)
  | x :: rest =>
    if isBreak x then
      let kept := if x == '\u2028' || x == '\u2029' then x else '\n'
      ([kept], ⟨rest, c.index + 1, c.line + 1, 0⟩)
    else ([], c)
  | [] => ([], c)

/-- The characters of a class at the cursor, and the place behind them. The class must not contain
breaks. -/
def takeWhile (c : Cursor) (p : Char → Bool) : List Char × Cursor :=
  let taken := c.rest.takeWhile p
  (taken, c.skip taken.length)

/-- The place behind the characters of a class. -/
def skipWhile (c : Cursor) (p : Char → Bool) : Cursor := (c.takeWhile p).2

/-- The place at the next break or at the end if a comment starts at the cursor. -/
def skipComment (c : Cursor) : Cursor :=
  if c.looksAt '#' then c.skipWhile (!isBreak ·) else c

/-- The place behind the rest of a line of blanks and comments, if nothing else follows on it. -/
def endLine? (c : Cursor) : Option Cursor :=
  let c := (c.skipWhile isBlank).skipComment
  if c.rest.isEmpty || c.looksAtAny isBreak then some c.readBreak.2 else none

/-- Whether a mark of three characters stands alone at the start of a line. -/
def isMark (c : Cursor) (x : Char) : Bool :=
  c.column == 0 && c.rest.take 3 == [x, x, x] && c.isClear 3

/-- Whether a document starts or ends at the cursor. -/
def isDocumentMark (c : Cursor) : Bool := c.isMark '-' || c.isMark '.'

end Cursor

end CodeStyle.Yaml

import CodeStyle.Text.Bytes

/-!
# Positions

Lines and columns count from one, columns in bytes. A span runs from its first position to its
last, both included, so an empty span ends one column before it starts. Offsets count bytes from
zero; `placeAt` turns them into a row and a column, both from zero.

Who asks for a span gives its lines and columns as words of 32 bits. Numbers that are read off a text
have no bound here.
-/
namespace CodeStyle

/-- A line and a column, both from one. -/
structure Position where
  line : Nat
  column : Nat
deriving DecidableEq, Repr

namespace Position

/-- A position as messages show it. -/
def text (p : Position) : String := s!"{p.line}:{p.column}"

end Position

/-- The positions of the first and of the last character of a piece of text. -/
structure Span where
  start : Position
  stop : Position
deriving DecidableEq, Repr

namespace Span

/-- Whether a span starts in the text and does not end before it starts. -/
def isValid (s : Span) : Bool :=
  s.start.line != 0 && s.start.column != 0 && s.start.line ≤ s.stop.line &&
    (s.stop.line != s.start.line || s.start.column ≤ s.stop.column + 1)

/-- A span as messages show it. -/
def text (s : Span) : String := s.start.text ++ ".." ++ s.stop.text

end Span

/-- A line and a column, both from one, in words. -/
structure WordPosition where
  line : UInt32
  column : UInt32
deriving DecidableEq, Repr

def WordPosition.toPosition (p : WordPosition) : Position := ⟨p.line.toNat, p.column.toNat⟩

/-- A span that is asked for. -/
structure WordSpan where
  start : WordPosition
  stop : WordPosition
deriving DecidableEq, Repr

namespace WordSpan

def toSpan (s : WordSpan) : Span := ⟨s.start.toPosition, s.stop.toPosition⟩

/-- Whether a span is accepted. The column behind its last one is a word too: behind the largest
word comes zero, which is in front of every column. -/
def isValid (s : WordSpan) : Bool :=
  s.start.line != 0 && s.start.column != 0 && s.start.line ≤ s.stop.line &&
    (s.stop.line != s.start.line || s.start.column ≤ s.stop.column + 1)

end WordSpan

namespace Text

/-- A row and a column, both from zero, the column in bytes. -/
structure Place where
  row : Nat
  column : Nat
deriving DecidableEq, Repr

/-- The place reached behind one more character. -/
def Place.step (p : Place) (c : Char) : Place :=
  if c = '\n' then ⟨p.row + 1, 0⟩ else ⟨p.row, p.column + c.utf8Size⟩

/-- The place `n` bytes further on in the text that starts at a place. -/
def placeFrom (p : Place) : List Char → Nat → Place
  | _, 0 => p
  | [], _ + 1 => p
  | c :: cs, n + 1 => placeFrom (p.step c) cs (n + 1 - c.utf8Size)

def placeAt (text : List Char) (offset : Nat) : Place := placeFrom ⟨0, 0⟩ text offset

/-- The position of a character that starts at an offset. -/
def startPosition (text : List Char) (offset : Nat) : Position :=
  let p := placeAt text offset
  ⟨p.row + 1, p.column + 1⟩

/-- The position of a character that ends at an offset. -/
def stopPosition (text : List Char) (offset : Nat) : Position :=
  let p := placeAt text offset
  ⟨p.row + 1, p.column⟩

end Text

end CodeStyle

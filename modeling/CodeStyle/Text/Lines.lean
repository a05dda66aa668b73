import CodeStyle.Unicode.Property

/-!
# Lines of a text

A line ends with a line feed or with a carriage return and a line feed; neither belongs to it.
The last line needs no end, and an ended last line is not followed by an empty one. White space at
the ends of a text is what the character database has as such.
-/
namespace CodeStyle.Text

/-- A line without the carriage return before its line feed, from the line in reverse. -/
def closeLine : List Char → List Char
  | '\r' :: line => line.reverse
  | line => line.reverse

/-- The lines of a text behind what has been read of the current line, in reverse. -/
def linesFrom (current : List Char) : List Char → List (List Char)
  | [] => if current.isEmpty then [] else [current.reverse]
  | c :: cs =>
    if c = '\n' then closeLine current :: linesFrom [] cs else linesFrom (c :: current) cs

def lines (text : List Char) : List (List Char) := linesFrom [] text

/-- The lines of a sequence of bytes, read in the same way. -/
def byteLinesFrom (current : List UInt8) : List UInt8 → List (List UInt8)
  | [] => if current.isEmpty then [] else [current.reverse]
  | b :: bs =>
    if b = 10 then
      (match current with
        | 13 :: line => line.reverse
        | line => line.reverse) :: byteLinesFrom [] bs
    else byteLinesFrom (b :: current) bs

def byteLines (bytes : List UInt8) : List (List UInt8) := byteLinesFrom [] bytes

/-- Whether a character is white space. -/
def isBlank (c : Char) : Bool := Unicode.Property.whiteSpace.contains c

def trimStart (cs : List Char) : List Char := cs.dropWhile isBlank

def trimEnd (cs : List Char) : List Char := (cs.reverse.dropWhile isBlank).reverse

def trim (cs : List Char) : List Char := trimEnd (trimStart cs)

end CodeStyle.Text

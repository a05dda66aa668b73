import CodeStyle.Error
import CodeStyle.Text.Lines
import CodeStyle.Text.Position

/-!
# Excerpts

An excerpt is the text of a span, cut from a file line by line. Lines are joined by line feeds
whatever ended them in the file. A span over several lines that stops in the first column takes
nothing from its last line, so that a boundary at the start of a line does not pull in the first
character of what follows.

The file is a stream of lines, of which any may be unreadable. Lines are looked at in order, up to
the last line of the span and no further.

`ofStream` is the excerpt of a span that is asked for, with lines numbered in words. For the spans of
a tree and of a text, which fit, it is `ofLines`.
-/
namespace CodeStyle

/-- Why a span has no excerpt. -/
inductive ExcerptFault
  | invalidSpan (span : Span)
  | columns (first last line bytes : Nat)
  | pastEnd (line : Nat)
deriving DecidableEq, Repr

namespace ExcerptFault

def message : ExcerptFault → String
  | invalidSpan span => "invalid span " ++ span.text
  | columns first last line bytes =>
    s!"columns {first}..{last} do not fit line {line} ({bytes} bytes)"
  | pastEnd line => s!"line {line} is past the end of the file"

def toError (file : String) (f : ExcerptFault) : CheckError := .extraction file f.message

end ExcerptFault

namespace Excerpt

/-- A line of a file, or the reason why it cannot be read. -/
abbrev Line := Except ReadFault (List Char)

/-- The part of a line between two byte offsets. -/
def cut (line : List Char) (number first stop : Nat) : Except ExcerptFault (List Char) :=
  match Text.slice? line first stop with
  | some piece => .ok piece
  | none => .error (.columns (first + 1) stop number (Text.byteLength line))

/-- What a span takes from the line with a number, for a line that the span covers. -/
def piece (span : Span) (number : Nat) (line : List Char) : Except ExcerptFault (List Char) :=
  if number = span.start.line then
    cut line number (span.start.column - 1)
      (if span.start.line = span.stop.line then span.stop.column else Text.byteLength line)
  else if number = span.stop.line then
    if span.stop.column = 1 then .ok [] else cut line number 0 span.stop.column
  else .ok line

/-- What a span takes from a stream of lines whose first has a number. -/
def pieces (file : String) (span : Span) (number : Nat) :
    List Line → Except CheckError (List (List Char))
  | [] =>
    if number ≤ span.stop.line then .error ((ExcerptFault.pastEnd span.stop.line).toError file)
    else .ok []
  | line :: rest =>
    if span.stop.line < number then .ok []
    else match line with
      | .error fault => .error (.io fault)
      | .ok text =>
        if number < span.start.line then pieces file span (number + 1) rest
        else match piece span number text with
          | .error fault => .error (fault.toError file)
          | .ok taken => (pieces file span (number + 1) rest).map (taken :: ·)

def joinLines : List (List Char) → List Char
  | [] => []
  | [line] => line
  | line :: rest => line ++ '\n' :: joinLines rest

def ofLines (file : String) (lines : List Line) (span : Span) : Except CheckError (List Char) :=
  if span.isValid then (pieces file span 1 lines).map joinLines
  else .error ((ExcerptFault.invalidSpan span).toError file)

/-- What a span in words takes from a stream of lines whose first has a number. The number behind the
largest word is zero. -/
def wordPieces (file : String) (span : WordSpan) (number : UInt32) :
    List Line → Except CheckError (List (List Char))
  | [] => .ok []
  | line :: rest =>
    if span.stop.line < number then .ok []
    else match line with
      | .error fault => .error (.io fault)
      | .ok text =>
        if number < span.start.line then wordPieces file span (number + 1) rest
        else match piece span.toSpan number.toNat text with
          | .error fault => .error (fault.toError file)
          | .ok taken => (wordPieces file span (number + 1) rest).map (taken :: ·)

def ofStream (file : String) (lines : List Line) (span : WordSpan) :
    Except CheckError (List Char) :=
  if span.isValid then
    match wordPieces file span 1 lines with
    | .error e => .error e
    | .ok taken =>
      if UInt32.ofNat taken.length = span.stop.line - span.start.line + 1 then .ok (joinLines taken)
      else .error ((ExcerptFault.pastEnd span.stop.line.toNat).toError file)
  else .error ((ExcerptFault.invalidSpan span.toSpan).toError file)

def ofText (file : String) (text : List Char) (span : Span) : Except CheckError (List Char) :=
  ofLines file ((Text.lines text).map .ok) span

end Excerpt

end CodeStyle

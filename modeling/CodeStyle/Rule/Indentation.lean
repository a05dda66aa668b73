import CodeStyle.Source
import CodeStyle.Violation

/-!
# Indentation

The number of spaces in front of a line is a multiple of a width. Lines that start with a tab, hold
nothing but spaces or go on with a star are left out, the last because comments look like that.
-/
namespace CodeStyle.Indentation

/-- The number of spaces in front of a line. -/
def depth (line : List Char) : Nat := (line.takeWhile (· == ' ')).length

/-- Whether indentation is asked of a line. -/
def concerns (line : List Char) : Bool :=
  line.head? != some '\t' && match line.dropWhile (· == ' ') with
    | [] => false
    | c :: _ => c != '*'

/-- Whether a line starts where it may. -/
def isAligned (width : Nat) (line : List Char) : Bool :=
  !concerns line || depth line % width == 0

def message (path : String) (width line : Nat) : String :=
  s!"Not {width} spaces of indentation used at '{path}' line {line}."

/-- The violations in a list of lines whose first has a number. -/
def misaligned (path : String) (width : Nat) : (number : Nat) → List (List Char) → List Violation
  | _, [] => []
  | number, line :: rest =>
    if isAligned width line then misaligned path width (number + 1) rest
    else ⟨path, number, message path width number⟩ :: misaligned path width (number + 1) rest

def inspect (width : Nat) (s : Source) : List Violation := misaligned s.path width 1 s.lines

end CodeStyle.Indentation

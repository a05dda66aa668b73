import CodeStyle.Regex.CharSet

/-!
# Regular expressions

An expression is built from tests on one character and tests on a position. `Matches` says between
which positions of a text an expression matches; the order of preference among matches is left
out, because only the existence of a match is asked for.
-/
namespace CodeStyle
namespace Regex

/-- Expressions over character tests `α` and position tests `β`. -/
inductive Expr (α β : Type)
  | empty
  | char (test : α)
  | look (test : β)
  | seq (a b : Expr α β)
  | alt (a b : Expr α β)
  | rep (a : Expr α β) (min : Nat) (max : Option Nat)

namespace Expr

variable {α β γ δ : Type}

/-- An expression with its tests replaced. -/
def map (f : α → γ) (g : β → δ) : Expr α β → Expr γ δ
  | empty => empty
  | char t => char (f t)
  | look t => look (g t)
  | seq a b => seq (a.map f g) (b.map f g)
  | alt a b => alt (a.map f g) (b.map f g)
  | rep a min max => rep (a.map f g) min max

/-- Expressions one after the other. -/
def seqs : List (Expr α β) → Expr α β
  | [] => empty
  | [a] => a
  | a :: rest => seq a (seqs rest)

/-- A choice of expressions. -/
def alts : List (Expr α β) → Expr α β
  | [] => empty
  | [a] => a
  | a :: rest => alt a (alts rest)

def star (a : Expr α β) : Expr α β := rep a 0 none

def plus (a : Expr α β) : Expr α β := rep a 1 none

def opt (a : Expr α β) : Expr α β := rep a 0 (some 1)

/-- Between which positions an expression matches, for tests read at positions. -/
inductive Matches (charAt : α → Nat → Prop) (lookAt : β → Nat → Prop) :
    Expr α β → Nat → Nat → Prop
  | empty (i : Nat) : Matches charAt lookAt empty i i
  | char {t : α} {i : Nat} (h : charAt t i) : Matches charAt lookAt (char t) i (i + 1)
  | look {t : β} {i : Nat} (h : lookAt t i) : Matches charAt lookAt (look t) i i
  | seq {a b : Expr α β} {i j k : Nat} (ha : Matches charAt lookAt a i j)
      (hb : Matches charAt lookAt b j k) : Matches charAt lookAt (seq a b) i k
  | altLeft {a b : Expr α β} {i j : Nat} (h : Matches charAt lookAt a i j) :
      Matches charAt lookAt (alt a b) i j
  | altRight {a b : Expr α β} {i j : Nat} (h : Matches charAt lookAt b i j) :
      Matches charAt lookAt (alt a b) i j
  | repDone {a : Expr α β} {max : Option Nat} (i : Nat) : Matches charAt lookAt (rep a 0 max) i i
  | repMust {a : Expr α β} {min : Nat} {max : Option Nat} {i j k : Nat}
      (ha : Matches charAt lookAt a i j)
      (hr : Matches charAt lookAt (rep a min (max.map (· - 1))) j k) :
      Matches charAt lookAt (rep a (min + 1) max) i k
  | repMay {a : Expr α β} {max : Nat} {i j k : Nat} (ha : Matches charAt lookAt a i j)
      (hr : Matches charAt lookAt (rep a 0 (some max)) j k) :
      Matches charAt lookAt (rep a 0 (some (max + 1))) i k
  | repMore {a : Expr α β} {i j k : Nat} (ha : Matches charAt lookAt a i j)
      (hr : Matches charAt lookAt (rep a 0 none) j k) : Matches charAt lookAt (rep a 0 none) i k

end Expr

/-- Tests on a position. The word tests go by Unicode or by ASCII words. -/
inductive Look
  | textStart
  | textEnd
  | lineStart
  | lineEnd
  | returnLineStart
  | returnLineEnd
  | wordEdge (ascii : Bool)
  | wordInside (ascii : Bool)
  | wordStart (ascii : Bool)
  | wordEnd (ascii : Bool)
  | wordStartHalf (ascii : Bool)
  | wordEndHalf (ascii : Bool)
deriving DecidableEq, Repr

namespace Look

/-- Whether a position follows a character that passes a test. -/
def after (text : Array Char) (i : Nat) (p : Char → Bool) : Bool :=
  i != 0 && (text[i - 1]?).any p

/-- Whether a position precedes a character that passes a test. -/
def before (text : Array Char) (i : Nat) (p : Char → Bool) : Bool := (text[i]?).any p

/-- Whether a character belongs to words. -/
def inWord (ascii : Bool) (c : Char) : Bool :=
  (if ascii then CharSet.asciiWord else CharSet.word).contains c

/-- Whether a test holds at a position of a text. -/
def holds (text : Array Char) (i : Nat) : Look → Bool
  | textStart => i == 0
  | textEnd => i == text.size
  | lineStart => i == 0 || after text i (· == '\n')
  | lineEnd => i == text.size || before text i (· == '\n')
  | returnLineStart =>
    i == 0 || after text i (· == '\n') || (after text i (· == '\r') && !before text i (· == '\n'))
  | returnLineEnd =>
    i == text.size || before text i (· == '\r') ||
      (before text i (· == '\n') && !after text i (· == '\r'))
  | wordEdge ascii => after text i (inWord ascii) != before text i (inWord ascii)
  | wordInside ascii => after text i (inWord ascii) == before text i (inWord ascii)
  | wordStart ascii => !after text i (inWord ascii) && before text i (inWord ascii)
  | wordEnd ascii => after text i (inWord ascii) && !before text i (inWord ascii)
  | wordStartHalf ascii => !after text i (inWord ascii)
  | wordEndHalf ascii => !before text i (inWord ascii)

end Look

end Regex

/-- A regular expression over the characters of a text. -/
abbrev Regex := Regex.Expr Regex.CharSet Regex.Look

end CodeStyle

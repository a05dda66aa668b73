import CodeStyle.Regex.Basic

/-!
# Flags of a pattern

The modes that a pattern switches on and off as it goes, and what single characters, dots and
anchors stand for under them. In byte mode only ASCII can be named, and what would match part of a
character is refused.
-/
namespace CodeStyle.Regex

/-- The modes in force at some place of a pattern. -/
structure Flags where
  ignoreCase : Bool := false
  multiLine : Bool := false
  dotMatchesAll : Bool := false
  byteMode : Bool := false
  returns : Bool := false
  verbose : Bool := false
deriving DecidableEq, Repr

namespace Flags

/-- Switches the mode that a letter names; greediness makes no difference to what matches. -/
def set? (f : Flags) (letter : Char) (on : Bool) : Option Flags :=
  match letter with
  | 'i' => some { f with ignoreCase := on }
  | 'm' => some { f with multiLine := on }
  | 's' => some { f with dotMatchesAll := on }
  | 'U' => some f
  | 'u' => some { f with byteMode := !on }
  | 'R' => some { f with returns := on }
  | 'x' => some { f with verbose := on }
  | _ => none

/-- Reads letters up to the end of a group of flags: no letter twice, at most one hyphen and not
as the last. Gives the new modes, the number of letters and hyphens, the closing character and
what follows it. -/
def read? (f : Flags) (seen : List Char) (on : Bool) :
    List Char → Option (Flags × Nat × Char × List Char)
  | [] => none
  | c :: rest =>
    if c = ':' || c = ')' then
      if seen.head? = some '-' then none else some (f, seen.length, c, rest)
    else if seen.contains c then none
    else if c = '-' then read? f (c :: seen) false rest
    else match f.set? c on with
      | some g => read? g (c :: seen) on rest
      | none => none

/-- A set with the members that differ only in case, if case is ignored. -/
def withCase (f : Flags) (s : CharSet) : CharSet :=
  if f.ignoreCase then if f.byteMode then .anyAsciiCase s else .anyCase s else s

/-- A class with case and complement taken into account. A complement in byte mode would hold
parts of characters. -/
def close? (f : Flags) (negated : Bool) (s : CharSet) : Option CharSet :=
  if negated && f.byteMode then none else some (.negateIf negated (f.withCase s))

/-- What a dot stands for. -/
def dot? (f : Flags) : Option CharSet :=
  if f.byteMode then none
  else if f.dotMatchesAll then some .all
  else if f.returns then some (.compl (.ofRanges [('\r', '\r'), ('\n', '\n')]))
  else some (.compl (.single '\n'))

/-- What a caret stands for. -/
def caret (f : Flags) : Look :=
  if f.multiLine then if f.returns then .returnLineStart else .lineStart else .textStart

/-- What a dollar sign stands for. -/
def dollar (f : Flags) : Look :=
  if f.multiLine then if f.returns then .returnLineEnd else .lineEnd else .textEnd

end Flags

end CodeStyle.Regex

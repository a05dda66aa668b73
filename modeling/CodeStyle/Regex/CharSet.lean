import CodeStyle.Unicode.CaseMapping
import CodeStyle.Unicode.GeneralCategory
import CodeStyle.Unicode.Script

/-!
# Sets of characters

The sets that a pattern can name: ranges, classes of the character database, and what set
operations, complements and differences in case make of them. A set is kept as the expression that
names it and is only ever asked for membership.
-/
namespace CodeStyle.Regex

/-- An expression for a set of characters. -/
inductive CharSet
  | none
  | all
  | range (first last : Char)
  | category (members : List String)
  | script (code : String)
  | scriptUse (code : String)
  | points (set : Unicode.CodeSet)
  | union (a b : CharSet)
  | inter (a b : CharSet)
  | diff (a b : CharSet)
  | symmDiff (a b : CharSet)
  | compl (a : CharSet)
  | anyCase (a : CharSet)
  | anyAsciiCase (a : CharSet)

namespace CharSet

/-- The ASCII letters that differ from a character at most in case. -/
def asciiOrbit (c : Char) : List Char := [c, c.toLower, c.toUpper]

def contains : CharSet → Char → Bool
  | none, _ => false
  | all, _ => true
  | range first last, c => decide (first ≤ c) && decide (c ≤ last)
  | category members, c => members.contains (Unicode.GeneralCategory.ofChar c)
  | script code, c => Unicode.Script.contains code c
  | scriptUse code, c => Unicode.Script.usedIn code c
  | points set, c => set.contains c
  | union a b, c => a.contains c || b.contains c
  | inter a b, c => a.contains c && b.contains c
  | diff a b, c => a.contains c && !b.contains c
  | symmDiff a b, c => a.contains c != b.contains c
  | compl a, c => !a.contains c
  | anyCase a, c => (Unicode.caseOrbit c).any a.contains
  | anyAsciiCase a, c => (asciiOrbit c).any a.contains

def single (c : Char) : CharSet := range c c

/-- The union of the ranges between pairs of characters. -/
def ofRanges (rs : List (Char × Char)) : CharSet :=
  rs.foldr (fun r s => union (range r.1 r.2) s) none

/-- A set or its complement. -/
def negateIf (negated : Bool) (s : CharSet) : CharSet := if negated then compl s else s

/-- Decimal digits of all scripts. -/
def digit : CharSet := category ["Nd"]

def space : CharSet := points Unicode.Property.whiteSpace

/-- Characters of words: letters, marks, decimal digits, connectors and joiners. -/
def word : CharSet :=
  union (points Unicode.Property.alphabetic)
    (union (category ["Mc", "Me", "Mn", "Nd", "Pc"]) (points Unicode.Property.joinControl))

def asciiDigit : CharSet := range '0' '9'

def asciiSpace : CharSet := ofRanges [('\t', '\r'), (' ', ' ')]

def asciiWord : CharSet := ofRanges [('a', 'z'), ('A', 'Z'), ('0', '9'), ('_', '_')]

/-- The ASCII class with a name between colons. -/
def asciiClass? : String → Option CharSet
  | "alnum" => some (ofRanges [('0', '9'), ('A', 'Z'), ('a', 'z')])
  | "alpha" => some (ofRanges [('A', 'Z'), ('a', 'z')])
  | "ascii" => some (range '\x00' '\x7f')
  | "blank" => some (ofRanges [('\t', '\t'), (' ', ' ')])
  | "cntrl" => some (ofRanges [('\x00', '\x1f'), ('\x7f', '\x7f')])
  | "digit" => some asciiDigit
  | "graph" => some (range '!' '~')
  | "lower" => some (range 'a' 'z')
  | "print" => some (range ' ' '~')
  | "punct" => some (ofRanges [('!', '/'), (':', '@'), ('[', '\x60'), ('\x7b', '~')])
  | "space" => some asciiSpace
  | "upper" => some (range 'A' 'Z')
  | "word" => some asciiWord
  | "xdigit" => some (ofRanges [('0', '9'), ('A', 'F'), ('a', 'f')])
  | _ => Option.none

/-- A name of the character database in plain spelling: without a leading "is", blanks, hyphens,
underscores and characters outside ASCII, in lower case. -/
def plainName (name : List Char) : String :=
  let (isGone, rest) := match name with
    | a :: b :: rest => if a.toLower = 'i' && b.toLower = 's' then (true, rest) else (false, name)
    | _ => (false, name)
  let kept := (rest.filter fun c => c.toNat < 128 && c ≠ ' ' && c ≠ '_' && c ≠ '-').map Char.toLower
  if isGone && kept = ['c'] then "isc" else String.ofList kept

/-- The characters of a general category or a group of categories. -/
def ofCategory? (name : String) : Option CharSet :=
  if name = "any" then some all
  else if name = "assigned" then some (compl (category ["Cn"]))
  else if name = "ascii" then some (range '\x00' '\x7f')
  else (Unicode.GeneralCategory.members? name).map category

/-- The characters of a class given by its name alone: a binary property, a category or a script.
Three short names are both categories and other properties; they mean the category. -/
def ofName? (name : List Char) : Option CharSet :=
  let plain := plainName name
  let property := if ["cf", "sc", "lc"].contains plain then Option.none
    else (Unicode.Property.set? plain).map points
  property <|> ofCategory? plain <|> (Unicode.Script.code? plain).map script

/-- The characters of a class given by a property and its value. General categories, scripts and
script extensions are read. The classes by age, grapheme cluster break, word break and sentence break
(`age`, `gcb`, `wb` and `sb`) are left out: there is no class of such a name. -/
def ofValue? (property value : List Char) : Option CharSet :=
  let plain := plainName value
  match plainName property with
  | "gc" => ofCategory? plain
  | "generalcategory" => ofCategory? plain
  | "sc" => (Unicode.Script.code? plain).map script
  | "script" => (Unicode.Script.code? plain).map script
  | "scx" => (Unicode.Script.code? plain).map scriptUse
  | "scriptextensions" => (Unicode.Script.code? plain).map scriptUse
  | _ => Option.none

end CharSet

end CodeStyle.Regex

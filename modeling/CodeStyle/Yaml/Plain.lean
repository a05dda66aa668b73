import CodeStyle.Yaml.Quoted

/-!
# Plain scalars

Texts without quotes. They end at a colon that is followed by white space, at a comment, at brackets
and commas inside of flow collections, and where a line is not indented enough.
-/
namespace CodeStyle.Yaml.Plain

/-- The characters that end a word inside of flow collections. -/
def flowSigns : List Char := [',', '[', ']', '{', '}']

/-- The length of the word at the start of a text. A colon in front of certain signs of flow
collections is refused. -/
def wordLength? (inFlow : Bool) : List Char → Option Nat
  | [] => some 0
  | x :: rest =>
    if isSpace x then some 0
    else if inFlow && x == ':' && rest.head?.any ('?' :: flowSigns).contains then none
    else if (x == ':' && rest.head?.all isSpace) || (inFlow && flowSigns.contains x) then some 0
    else (wordLength? inFlow rest).map (· + 1)

/-- Reads words and gaps, behind what has been read before, in reverse, and the gap behind it.
Outside of flow collections further lines start in `minColumn` at least. The last component tells
whether a break ended the scalar. -/
def readWords (inFlow : Bool) (minColumn : Int) :
    (fuel : Nat) → (done : List Char) → Gap → Cursor → Option (List Char × Cursor × Bool)
  | 0, _, _, _ => none
  | fuel + 1, done, g, c =>
    if c.isDocumentMark || c.looksAt '#' then some (done.reverse, c, g.isBroken)
    else match wordLength? inFlow c.rest with
      | none => none
      | some n =>
        let word := c.rest.take n
        let (done, g) := if n = 0 then (done, g)
          else (word.reverse ++ (g.folded.reverse ++ done), { })
        let c := c.skip n
        if !c.looksAtAny isSpace then some (done.reverse, c, g.isBroken)
        else match Gap.read minColumn (c.rest.length + 1) g c with
          | none => none
          | some (g, c) =>
            if !inFlow && (c.column : Int) < minColumn then some (done.reverse, c, g.isBroken)
            else readWords inFlow minColumn fuel done g c

def read? (inFlow : Bool) (minColumn : Int) (c : Cursor) : Option (List Char × Cursor × Bool) :=
  readWords inFlow minColumn (c.rest.length + 1) [] { } c

end CodeStyle.Yaml.Plain

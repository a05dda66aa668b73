import CodeStyle.Text.Quoted
import CodeStyle.Yaml.Cursor

/-!
# Quoted scalars and folded lines

Texts in single or double quotes. A single line break inside becomes a space, of several breaks the
first is dropped; blanks around breaks do not count. Between double quotes there are escapes, and an
escaped break joins two lines.
-/
namespace CodeStyle.Yaml

/-- Blanks and breaks between two words. The blanks count only if there is no break. -/
structure Gap where
  blanks : List Char := []
  firstBreak : List Char := []
  moreBreaks : List Char := []
  isBroken : Bool := false

namespace Gap

def folded (g : Gap) : List Char :=
  if !g.isBroken then g.blanks
  else if g.firstBreak == ['\n'] then if g.moreBreaks.isEmpty then [' '] else g.moreBreaks
  else g.firstBreak ++ g.moreBreaks

def addBreak (g : Gap) (kept : List Char) : Gap :=
  if g.isBroken then { g with moreBreaks := g.moreBreaks ++ kept }
  else { firstBreak := kept, isBroken := true }

/-- Reads the blanks and breaks at the cursor. A tab behind a break must not stand in a column
before `minColumn`. -/
def read (minColumn : Int) : (fuel : Nat) → Gap → Cursor → Option (Gap × Cursor)
  | 0, _, _ => none
  | fuel + 1, g, c =>
    match c.rest with
    | [] => some (g, c)
    | x :: _ =>
      if isBlank x then
        if g.isBroken then
          if x == '\t' && (c.column : Int) < minColumn then none
          else read minColumn fuel g (c.skip 1)
        else read minColumn fuel { g with blanks := g.blanks ++ [x] } (c.skip 1)
      else if isBreak x then
        let (kept, next) := c.readBreak
        read minColumn fuel (g.addBreak kept) next
      else some (g, c)

end Gap

namespace Quoted

/-- The character that an escape stands for, from its letter and what follows it, and the number of
characters behind the letter that belong to it. -/
def escape? (letter : Char) (rest : List Char) : Option (Char × Nat) :=
  let digits (count : Nat) :=
    ((Text.hexPrefix? count rest).bind Text.charOf?).map fun c => (c, count)
  match letter with
  | '0' => some ('\x00', 0)
  | 'a' => some ('\x07', 0)
  | 'b' => some ('\x08', 0)
  | 't' => some ('\t', 0)
  | '\t' => some ('\t', 0)
  | 'n' => some ('\n', 0)
  | 'v' => some ('\x0b', 0)
  | 'f' => some ('\x0c', 0)
  | 'r' => some ('\r', 0)
  | 'e' => some ('\x1b', 0)
  | ' ' => some (' ', 0)
  | '"' => some ('"', 0)
  | '/' => some ('/', 0)
  | '\\' => some ('\\', 0)
  | 'N' => some ('\u0085', 0)
  | '_' => some ('\u00a0', 0)
  | 'L' => some ('\u2028', 0)
  | 'P' => some ('\u2029', 0)
  | 'x' => digits 2
  | 'u' => digits 4
  | 'U' => digits 8
  | _ => none

/-- Reads a word up to a blank, a break or the closing quote, behind what has been read before, in
reverse. The last component tells whether an escaped break ended the word. -/
def readWord (quote : Char) : (fuel : Nat) → (done : List Char) → Cursor →
    Option (List Char × Cursor × Bool)
  | 0, _, _ => none
  | fuel + 1, done, c =>
    match c.rest with
    | [] => some (done, c, false)
    | x :: rest =>
      if isSpace x then some (done, c, false)
      else if x == quote then
        if quote == '\'' && rest.head? == some '\'' then
          readWord quote fuel ('\'' :: done) (c.skip 2)
        else some (done, c, false)
      else if quote == '"' && x == '\\' then
        match rest with
        | [] => none
        | y :: more =>
          if isBreak y then some (done, (c.skip 1).readBreak.2, true)
          else match escape? y more with
            | some (z, count) => readWord quote fuel (z :: done) (c.skip (2 + count))
            | none => none
      else readWord quote fuel (x :: done) (c.skip 1)

/-- Reads words and gaps up to the closing quote. -/
def readWords (quote : Char) : (fuel : Nat) → (done : List Char) → Cursor →
    Option (List Char × Cursor)
  | 0, _, _ => none
  | fuel + 1, done, c =>
    if c.isDocumentMark || c.rest.isEmpty then none
    else match readWord quote (c.rest.length + 1) done c with
      | none => none
      | some (done, c, joined) =>
        if c.looksAt quote then some (done.reverse, c.skip 1)
        else match Gap.read 0 (c.rest.length + 1) { isBroken := joined } c with
          | some (g, c) => readWords quote fuel (g.folded.reverse ++ done) c
          | none => none

def read? (quote : Char) (c : Cursor) : Option (List Char × Cursor) :=
  readWords quote (c.rest.length + 1) [] (c.skip 1)

end Quoted

end CodeStyle.Yaml

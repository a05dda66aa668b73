import CodeStyle.Yaml.Block
import CodeStyle.Yaml.Plain
import CodeStyle.Yaml.Properties

/-!
# Reading tokens

Documents are cut into tokens from left to right. In block collections the columns of the entries
decide where a collection starts and ends. A key needs no sign of its own if it fits on one line and
is not too long: what may be such a key is remembered until its colon is found, and the tokens for
the key are then put in front of it.
-/
namespace CodeStyle.Yaml

/-- Where something stands that may turn out to be a key: the number of tokens in front of it and
its place. It is required if it stands where the entries of a block collection start. -/
structure KeyCandidate where
  isRequired : Bool
  tokenCount : Nat
  index : Nat
  line : Nat
  column : Nat

/-- What is known in front of the next token: the tokens so far, the last one first; for every open
flow collection and for what is outside of them the possible key, the innermost first; the column
of the innermost block collection, -1 outside of them, and those of the others; whether a key may
start here. -/
structure Lexer where
  cursor : Cursor
  tokens : List Token := []
  count : Nat := 0
  keys : List (Option KeyCandidate) := [none]
  column : Int := -1
  outer : List Int := []
  mayStartKey : Bool := true

namespace Lexer

/-- The length beyond which nothing is a key without a sign. -/
def maximumKeyLength : Nat := 1024

/-- Whether the next token is inside of a flow collection. -/
def inFlow (l : Lexer) : Bool := 1 < l.keys.length

def push (l : Lexer) (t : Token) : Lexer :=
  { l with tokens := t :: l.tokens, count := l.count + 1 }

/-- Puts a token behind the first `n`. -/
def insert (l : Lexer) (n : Nat) (t : Token) : Lexer :=
  let later := l.count - n
  { l with
    tokens := l.tokens.take later ++ t :: l.tokens.drop later
    count := l.count + 1 }

def moveTo (l : Lexer) (c : Cursor) : Lexer := { l with cursor := c }

/-- The lexer with the information whether a key may start. -/
def allowKey (l : Lexer) (allowed : Bool) : Lexer := { l with mayStartKey := allowed }

/-- Whether a candidate can still be followed by its colon. -/
def isInReach (c : Cursor) (k : KeyCandidate) : Bool :=
  k.line = c.line && c.index ≤ k.index + maximumKeyLength

/-- Forgets candidates that are out of reach, none of which may be required. -/
def dropStale? (l : Lexer) : Option Lexer :=
  if l.keys.any fun k => k.any fun k => k.isRequired && !isInReach l.cursor k then none
  else some { l with keys := l.keys.map fun k => k.filter (isInReach l.cursor) }

/-- Forgets the innermost candidate, which must not be required. -/
def dropKey? (l : Lexer) : Option Lexer :=
  match l.keys with
  | some k :: rest => if k.isRequired then none else some { l with keys := none :: rest }
  | _ => some l

/-- Remembers that what starts at the cursor may be a key. -/
def noteKey? (l : Lexer) : Option Lexer :=
  if l.mayStartKey then
    l.dropKey?.map fun l =>
      let c := l.cursor
      let k : KeyCandidate := {
        isRequired := !l.inFlow && l.column == (c.column : Int)
        tokenCount := l.count
        index := c.index
        line := c.line
        column := c.column }
      { l with keys := some k :: l.keys.drop 1 }
  else some l

/-- Opens a block collection if a column is to the right of the innermost one. Its token is put
behind the first `n`. -/
def indent (l : Lexer) (column n : Nat) (t : Token) : Lexer :=
  if !l.inFlow && l.column < (column : Int) then
    { l.insert n t with column := column, outer := l.column :: l.outer }
  else l

/-- Closes the block collections to the right of a column. -/
def unindent (l : Lexer) (column : Int) : Lexer :=
  if l.inFlow then l else close l.outer l
where
  /-- Closes collections, given those around them. -/
  close : List Int → Lexer → Lexer
    | [], l => l
    | outer :: rest, l =>
      if column < l.column then
        close rest { l.push .blockEnd with column := outer, outer := rest }
      else l

/-- Goes to where the next token starts. Tabs are skipped only where no key may start. -/
def skipSpace : (fuel : Nat) → Lexer → Lexer
  | 0, l => l
  | fuel + 1, l =>
    let skipsTabs := l.inFlow || !l.mayStartKey
    let c := l.cursor.skipWhile fun x => x == ' ' || (skipsTabs && x == '\t')
    let c := c.skipComment
    if c.looksAtAny isBreak then
      skipSpace fuel ((l.moveTo c.readBreak.2).allowKey (l.mayStartKey || !l.inFlow))
    else l.moveTo c

def directive? (l : Lexer) : Option Lexer :=
  (l.unindent (-1)).dropKey?.bind fun l =>
    (Directive.read? l.cursor).map fun (t, c) => ((l.push t).allowKey false).moveTo c

def documentMark? (l : Lexer) (t : Token) : Option Lexer :=
  (l.unindent (-1)).dropKey?.map fun l => ((l.push t).allowKey false).moveTo (l.cursor.skip 3)

def openFlow? (l : Lexer) (t : Token) : Option Lexer :=
  l.noteKey?.map fun l =>
    (({ l with keys := none :: l.keys }.push t).allowKey true).moveTo (l.cursor.skip 1)

def closeFlow? (l : Lexer) (t : Token) : Option Lexer :=
  l.dropKey?.map fun l =>
    let keys := if l.inFlow then l.keys.drop 1 else l.keys
    (({ l with keys := keys }.push t).allowKey false).moveTo (l.cursor.skip 1)

/-- Reads a comma. -/
def flowEntry? (l : Lexer) : Option Lexer :=
  l.dropKey?.map fun l => ((l.push .flowEntry).allowKey true).moveTo (l.cursor.skip 1)

/-- Reads the hyphen of an entry. -/
def blockEntry? (l : Lexer) : Option Lexer :=
  if !l.inFlow && !l.mayStartKey then none
  else (l.indent l.cursor.column l.count .blockSequenceStart).dropKey?.map fun l =>
    ((l.push .blockEntry).allowKey true).moveTo (l.cursor.skip 1)

def key? (l : Lexer) : Option Lexer :=
  if !l.inFlow && !l.mayStartKey then none
  else (l.indent l.cursor.column l.count .blockMappingStart).dropKey?.map fun l =>
    ((l.push .key).allowKey (!l.inFlow)).moveTo (l.cursor.skip 1)

/-- Reads the colon of a value. If there is a candidate it becomes the key. -/
def value? (l : Lexer) : Option Lexer :=
  match l.keys with
  | some k :: rest =>
    let l := (l.insert k.tokenCount .key).indent k.column k.tokenCount .blockMappingStart
    some ((({ l with keys := none :: rest }.push .value).allowKey false).moveTo (l.cursor.skip 1))
  | _ =>
    if !l.inFlow && !l.mayStartKey then none
    else
      let l := l.indent l.cursor.column l.count .blockMappingStart
      some (((l.push .value).allowKey (!l.inFlow)).moveTo (l.cursor.skip 1))

/-- Adds a token that may be a key or the start of one. -/
def pushNode? (l : Lexer) (read : Cursor → Option (Token × Cursor)) : Option Lexer :=
  l.noteKey?.bind fun l =>
    (read l.cursor).map fun (t, c) => ((l.push t).allowKey false).moveTo c

def block? (l : Lexer) (isLiteral : Bool) : Option Lexer :=
  l.dropKey?.bind fun l =>
    (Block.read? isLiteral l.column l.cursor).map fun (text, c) =>
      ((l.push (.scalar (String.ofList text) false)).allowKey true).moveTo c

def quoted? (l : Lexer) (quote : Char) : Option Lexer :=
  l.pushNode? fun c =>
    (Quoted.read? quote c).map fun (text, c) => (.scalar (String.ofList text) false, c)

/-- Reads a plain scalar. Behind a break a key may start. -/
def plain? (l : Lexer) : Option Lexer :=
  l.noteKey?.bind fun l =>
    (Plain.read? l.inFlow (l.column + 1) l.cursor).map fun (text, c, isBroken) =>
      ((l.push (.scalar (String.ofList text) true)).allowKey isBroken).moveTo c

/-- The signs with which no plain scalar starts. -/
def signs : List Char :=
  ['-', '?', ':', ',', '[', ']', '{', '}', '#', '&', '*', '!', '|', '>', '\'', '"', '%', '@',
    '\x60']

/-- Whether a plain scalar starts with a character that is followed by some text. -/
def startsPlain (inFlow : Bool) (x : Char) (rest : List Char) : Bool :=
  if isSpace x then false
  else if !signs.contains x then true
  else if x == '-' then !rest.head?.any isBlank
  else !inFlow && (x == '?' || x == ':') && !rest.head?.all isSpace

/-- Reads the token that starts with a character, the cursor standing at it. -/
def token? (l : Lexer) (x : Char) : Option Lexer :=
  let c := l.cursor
  if c.column == 0 && x == '%' then l.directive?
  else if c.isMark '-' then l.documentMark? .documentStart
  else if c.isMark '.' then l.documentMark? .documentEnd
  else if x == '[' then l.openFlow? .flowSequenceStart
  else if x == '{' then l.openFlow? .flowMappingStart
  else if x == ']' then l.closeFlow? .flowSequenceEnd
  else if x == '}' then l.closeFlow? .flowMappingEnd
  else if x == ',' then l.flowEntry?
  else if x == '-' && c.isClear 1 then l.blockEntry?
  else if x == '?' && (l.inFlow || c.isClear 1) then l.key?
  else if x == ':' && (l.inFlow || c.isClear 1) then l.value?
  else if x == '*' then
    l.pushNode? fun c => (readName? c).map fun (name, c) => (.reference name, c)
  else if x == '&' then
    l.pushNode? fun c => (readName? c).map fun (name, c) => (.anchor name, c)
  else if x == '!' then l.pushNode? (Tag.read? l.inFlow)
  else if x == '|' && !l.inFlow then l.block? true
  else if x == '>' && !l.inFlow then l.block? false
  else if x == '\'' || x == '"' then l.quoted? x
  else if startsPlain l.inFlow x (c.rest.drop 1) then l.plain?
  else none

def run : (fuel : Nat) → Lexer → Option (List Token)
  | 0, _ => none
  | fuel + 1, l =>
    match (l.skipSpace (l.cursor.rest.length + 1)).dropStale? with
    | none => none
    | some l =>
      let l := l.unindent l.cursor.column
      match l.cursor.rest with
      | [] => (l.unindent (-1)).dropKey?.map (·.tokens.reverse)
      | x :: _ =>
        match l.token? x with
        | some l => run fuel l
        | none => none

end Lexer

/-- The tokens of a document, if it can be cut into tokens. A mark of the byte order may stand in
front of it. -/
def tokens? (text : List Char) : Option (List Token) :=
  let text := match text with
    | '\ufeff' :: rest => rest
    | text => text
  if text.all isPrintable then Lexer.run (text.length + 1) { cursor := { rest := text } } else none

end CodeStyle.Yaml

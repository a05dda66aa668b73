import CodeStyle.SyntaxTree.Basic

/-!
# Outlines

The written form of a tree: one node per line, parents before their children, with the depth of the
node, the range of its bytes, its flags, its field or a hyphen, and its kind. The flags are `n` or
`a` for a named or an anonymous node, `m` for a missing one and `e` for one with an error. In a kind
line feeds, carriage returns and backslashes are escaped.
-/
namespace CodeStyle.SyntaxTree.Outline

/-- A kind without its escapes. -/
def unescape : List Char → List Char
  | '\\' :: 'n' :: rest => '\n' :: unescape rest
  | '\\' :: 'r' :: rest => '\r' :: unescape rest
  | '\\' :: '\\' :: rest => '\\' :: unescape rest
  | c :: rest => c :: unescape rest
  | [] => []

/-- The words of a line up to a number of blanks, and the rest of the line. -/
def words : (count : Nat) → List Char → List String × List Char
  | 0, rest => ([], rest)
  | n + 1, line =>
    match line.span (· != ' ') with
    | (word, _ :: rest) => let (more, last) := words n rest; (String.ofList word :: more, last)
    | (word, []) => ([String.ofList word], [])

/-- The depth and the node that a line writes. -/
def readLine? (line : List Char) : Option (Nat × NodeInfo) :=
  match words 5 line with
  | ([depth, start, stop, flags, field], kind) =>
    match depth.toNat?, start.toNat?, stop.toNat? with
    | some depth, some start, some stop =>
      let flags := flags.toList
      some (depth, {
        kind := String.ofList (unescape kind)
        field := if field = "-" then none else some field
        isNamed := flags.contains 'n'
        isMissing := flags.contains 'm'
        hasError := flags.contains 'e'
        start := start
        stop := stop })
    | _, _, _ => none
  | _ => none

/-- Puts a node in front of the trees that follow it: those that are one deeper, up to the first
that is not, become its children. -/
def attach (line : Nat × NodeInfo) (later : List (Nat × SyntaxTree)) : List (Nat × SyntaxTree) :=
  let (inside, outside) := later.span fun t => line.1 < t.1
  (line.1, .node line.2 (inside.map (·.2))) :: outside

/-- The trees that a list of lines writes. -/
def forest (lines : List (Nat × NodeInfo)) : List (Nat × SyntaxTree) := lines.foldr attach []

def read? (text : String) : Option SyntaxTree :=
  match ((text.splitOn "\n").filter (· ≠ "")).mapM fun line => readLine? line.toList with
  | some lines => (forest lines).head?.map (·.2)
  | none => none

end CodeStyle.SyntaxTree.Outline

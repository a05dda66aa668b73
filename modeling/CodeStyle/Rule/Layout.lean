import CodeStyle.Excerpt
import CodeStyle.Language
import CodeStyle.Regex.Search
import CodeStyle.Source
import CodeStyle.SyntaxTree.Basic
import CodeStyle.Violation

/-!
# Layout of statements

A statement is laid out well if its head, up to the first character of its body, has one fixed
form on one line, and its body stands in braces. The head is quoted from the file; the body is
taken from the text of the tree.
-/
namespace CodeStyle

/-- The statements whose layout is fixed, and blocks that hold nothing. -/
inductive Layout
  | forLoop
  | ifElse
  | whileLoop
  | switchCases
  | tryCatch
  | emptyBlock
deriving DecidableEq, Repr

/-- The text of a span, quoted from the file that is checked. -/
abbrev Quote := Span → Except CheckError (List Char)

namespace Layout

open Regex

/-- Any character but a line feed. -/
def onLine : Regex := .char (.compl (.single '\n'))

/-- Any character but white space. -/
def visible : Regex := .char (.compl .space)

/-- A fixed text. -/
def fixed (text : String) : Regex := .seqs (text.toList.map fun c => .char (.single c))

/-- What is a match only if it covers the whole text. -/
def whole (parts : List Regex) : Regex :=
  .seqs (.look .textStart :: (parts ++ [.look .textEnd]))

/-- A keyword and a brace behind one space. -/
def plainHead (keyword : String) : Regex := whole [fixed (keyword ++ " \x7b")]

/-- A keyword, a condition in parentheses without white space at its ends, and a brace. -/
def conditionHead (keyword : String) : Regex :=
  whole [fixed (keyword ++ " ("), visible, .opt (.seq (.star onLine) visible), fixed ") \x7b"]

/-- The head of a loop with three parts, each of the last two behind a semicolon and a space. -/
def forHead : Regex :=
  whole [fixed "for (", visible, .star onLine, fixed "; ", .star onLine, fixed "; ", .star onLine,
    fixed ") \x7b"]

/-- Any text in braces. -/
def braced : Regex := whole [fixed "\x7b", .star (.alt onLine (fixed "\n")), fixed "\x7d"]

/-- White space in braces. -/
def blankBraces : Regex := whole [fixed "\x7b", .star (.char .space), fixed "\x7d"]

/-- Whether a statement consists of a head and of a body in braces. -/
def isBraced (quote : Quote) (s : Source) (head : Regex) (t : SyntaxTree)
    (body : Option SyntaxTree) : Except CheckError Bool :=
  match body with
  | none => .ok false
  | some b =>
    (quote ⟨s.start t, s.start b⟩).map fun text =>
      isMatch head text && isMatch braced (s.textOf b)

/-- What follows the keyword for the other case. In Java it is the alternative itself, in C the
last child of the alternative that is no comment. -/
def otherCase? (language : Language) (t : SyntaxTree) : Option SyntaxTree :=
  match language with
  | .java => t.field? "alternative"
  | .native => (t.field? "alternative").bind (·.codeChildren.getLast?)

/-- Whether the other case stands in braces. A further condition is judged as a statement of its
own. -/
def isOtherBraced (s : Source) (language : Language) (t : SyntaxTree) : Bool :=
  match otherCase? language t with
  | some other => other.kind == "if_statement" || isMatch braced (s.textOf other)
  | none => true

/-- The head and the body of a clause behind a tried block. -/
def clause? (t : SyntaxTree) : Option (Regex × Option SyntaxTree) :=
  match t.kind with
  | "catch_clause" => some (conditionHead "catch", t.field? "body")
  | "finally_clause" => some (plainHead "finally", t.firstChild? ["block"])
  | _ => none

/-- Whether a clause starts one space behind the end of what comes before it. -/
def isAttached (s : Source) (before : Option SyntaxTree) (clause : SyntaxTree) : Bool :=
  before.any fun b =>
    (s.stop b).line == (s.start clause).line &&
      (s.stop b).column + 2 == (s.start clause).column

/-- Whether all clauses are attached and laid out well. -/
def areClausesBraced (quote : Quote) (s : Source) :
    (before : Option SyntaxTree) → List SyntaxTree → Except CheckError Bool
  | _, [] => .ok true
  | before, t :: rest =>
    match clause? t with
    | none => areClausesBraced quote s before rest
    | some (head, body) =>
      if isAttached s before t then
        match isBraced quote s head t body with
        | .ok true => areClausesBraced quote s (some t) rest
        | result => result
      else .ok false

/-- The kinds of the nodes that have a layout. -/
def kinds (language : Language) : Layout → List String
  | forLoop => ["for_statement"]
  | ifElse => ["if_statement"]
  | whileLoop => ["while_statement"]
  | switchCases => match language with
    | .java => ["switch_expression"]
    | .native => ["switch_statement"]
  | tryCatch => ["try_statement"]
  | emptyBlock => ["block", "constructor_body"]

/-- Whether a node of a fitting kind is laid out well. -/
def isWellLaid (language : Language) (quote : Quote) (s : Source) (t : SyntaxTree) :
    Layout → Except CheckError Bool
  | forLoop => isBraced quote s forHead t (t.field? "body")
  | ifElse => (isBraced quote s (conditionHead "if") t (t.field? "consequence")).map
      (· && isOtherBraced s language t)
  | whileLoop => isBraced quote s (conditionHead "while") t (t.field? "body")
  | switchCases => isBraced quote s (conditionHead "switch") t (t.field? "body")
  | tryCatch =>
    match isBraced quote s (plainHead "try") t (t.field? "body") with
    | .ok true => areClausesBraced quote s (t.field? "body") t.namedChildren
    | result => result
  | emptyBlock => .ok (!isMatch blankBraces (s.textOf t))

def message : Layout → String
  | forLoop => "Invalid format for for statement"
  | ifElse => "Invalid format for if statement"
  | whileLoop => "Invalid format for while statement"
  | switchCases => "Invalid format for switch statement"
  | tryCatch => "Invalid format for try catch statement"
  | emptyBlock => "Empty block '\x7b\x7d' detected."

def visit (l : Layout) (language : Language) (quote : Quote) (s : Source) (t : SyntaxTree) :
    Except CheckError (List Violation) :=
  if (l.kinds language).contains t.kind then
    (l.isWellLaid language quote s t).map fun ok =>
      if ok then [] else [⟨s.path, s.line t, l.message⟩]
  else .ok []

end Layout

end CodeStyle

import CodeStyle.Binary64.Shortest
import CodeStyle.Report.Basic

/-!
# Reports for people

A headline, the violations under the names of their files, the files that could not be read and a
summary. The headline goes by the violations that are shown, the summary counts all of them.
-/
namespace CodeStyle

/-- How a text is marked in colour. -/
inductive Paint
  | success
  | failure
  | heading
deriving DecidableEq, Repr

namespace Paint

def start : Paint → String
  | success => "\x1b[32m"
  | failure => "\x1b[1;31m"
  | heading => "\x1b[1m"

def reset : String := "\x1b[0m"

/-- A text with a style started again wherever the text ends one. -/
def restart (style : List Char) : List Char → List Char
  | '\x1b' :: '[' :: '0' :: 'm' :: rest =>
    '\x1b' :: '[' :: '0' :: 'm' :: (style ++ restart style rest)
  | c :: rest => c :: restart style rest
  | [] => []

/-- A text in a style, if colours are wanted. -/
def apply (p : Paint) (colors : Bool) (text : String) : String :=
  if colors then p.start ++ String.ofList (restart p.start.toList text.toList) ++ reset else text

end Paint

namespace Report

/-- How a report is shown. -/
structure View where
  colors : Bool := true
  max : Option Nat := none

/-- A violation in the list of its file. -/
def violationLine (v : Violation) : String := "  " ++ v.text ++ "\n"

def groupText (colors : Bool) (g : FileGroup) : String :=
  Paint.heading.apply colors g.file ++ "\n" ++ String.join (g.violations.map violationLine) ++ "\n"

/-- The headline and the violations. -/
def listing (colors : Bool) (vs : List Violation) : String :=
  if vs.isEmpty then Paint.success.apply colors "No violations found" ++ "\n"
  else Paint.failure.apply colors "Violations found" ++ "\n\n" ++
    String.join ((groups vs).map (groupText colors))

/-- The files that could not be read. -/
def skippedText (r : Report) (colors : Bool) : String :=
  if r.hasSkipped then
    Paint.failure.apply colors "Files that could not be read" ++ "\n" ++
      String.join (r.skipped.map fun file => "  " ++ file ++ "\n") ++ "\n"
  else ""

/-- A number of violations. -/
def countText (n : Nat) : String :=
  toString n ++ " violation" ++ if n = 1 then "" else "s"

def secondsText (r : Report) : String :=
  (Binary64.ofMilliseconds r.summary.milliseconds).oneDigitText

/-- The line at the end. -/
def summaryText (r : Report) (colors : Bool) : String :=
  let n := r.violations.length
  let paint := if n = 0 then Paint.success else Paint.failure
  Paint.heading.apply colors "Summary:" ++ " " ++ paint.apply colors (countText n) ++
    s!" in {r.summary.totalFiles} files, {r.summary.activeRules} rules (" ++ r.secondsText ++ "s)\n"

def human (r : Report) (view : View) : String :=
  listing view.colors (r.shown view.max) ++ r.skippedText view.colors ++ r.summaryText view.colors

end Report

end CodeStyle

import CodeStyle.Disk.Read
import CodeStyle.Language
import CodeStyle.SyntaxTree.Problems
import CodeStyle.Violation

/-!
# Rules

A rule is a check of files of one language. A check reads the file from a disk. A text that does not
parse, or a file that holds no text, is one violation of the file as a whole, the same for every
rule; only a file that cannot be read, or a span that does not fit the file, is an error.
-/
namespace CodeStyle

/-- A check of one file. -/
abbrev Check := Disk → (path : String) → Except CheckError (List Violation)

/-- A rule that is ready to run. -/
structure Rule where
  name : String
  language : Language
  enabled : Bool
  check : Check

namespace Rule

def key (r : Rule) : String := RuleName.key r.name r.language

end Rule

namespace Check

/-- The wording for a file that does not parse. -/
def unparsed (problems : String) : String := "Failed to parse file: " ++ problems

/-- The error for a file that cannot be read. -/
def unreadable (path : String) (fault : ReadFault) : CheckError :=
  .analysis path ("Failed to read file: " ++ fault.message)

/-- The check that inspects every file that parses. -/
def ofSource (inspect : Disk → Source → Except CheckError (List Violation)) : Check :=
  fun disk path =>
    match disk.source path with
    | .error .notText =>
      .ok [.ofFile path (unparsed ("[" ++ ReadFault.notText.message ++ "]"))]
    | .error fault => .error (unreadable path fault)
    | .ok s =>
      if s.parses then inspect disk s else .ok [.ofFile path (unparsed s.problemLine)]

end Check

/-- The rule that quotes a fixed span of files of a language. It fails where the span does not fit, and
does not ask whether the file parses. -/
def Rule.quoting (language : Language) (enabled : Bool) (span : Span) : Rule where
  name := "Span" ++ language.ruleSuffix
  language := language
  enabled := enabled
  check := fun disk path =>
    (disk.excerpt path span).map fun text => [⟨path, span.start.line, String.ofList text⟩]

end CodeStyle

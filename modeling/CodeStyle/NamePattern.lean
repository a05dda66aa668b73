import CodeStyle.Error
import CodeStyle.Regex.Notation
import CodeStyle.Regex.Search
import CodeStyle.Regex.Size

/-!
# Name patterns

A pattern for names is put between anchors, so that it has to match a name from its first
character to its last. A pattern that would grow too large is refused like one that cannot be read.
-/
namespace CodeStyle

/-- A pattern for names and the expression that it stands for between anchors. -/
structure NamePattern where
  text : String
  regex : Regex

namespace NamePattern

def anchored (pattern : String) : String := "^(?:" ++ pattern ++ ")$"

/-- The wording for a pattern that cannot be used. -/
def invalid (pattern cause : String) : String := "Invalid pattern '" ++ pattern ++ "': " ++ cause

/-- The wording for a pattern that cannot be read. -/
def malformed : String := "regex parse error"

/-- The wording for a pattern that is too large. -/
def oversized : String :=
  "Compiled regex exceeds size limit of " ++ toString Regex.maximumBytes ++ " bytes."

/-- Reads a pattern for whole names. -/
def read (pattern : String) : Except CheckError NamePattern :=
  match Regex.read? (anchored pattern).toList with
  | some r =>
    if Regex.size r ≤ Regex.maximumBytes then .ok ⟨pattern, r⟩
    else .error (.pattern (invalid pattern oversized))
  | none => .error (.pattern (invalid pattern malformed))

def accepts (p : NamePattern) (name : String) : Bool := Regex.isMatch p.regex name.toList

end NamePattern

end CodeStyle

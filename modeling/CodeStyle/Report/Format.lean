import CodeStyle.Error
import CodeStyle.Unicode.CaseMapping

/-!
# Output formats

The forms in which a report can be shown, and the names by which they are asked for.
-/
namespace CodeStyle

/-- A form of a report. -/
inductive OutputFormat
  | human
  | json
deriving DecidableEq, Repr

namespace OutputFormat

def all : List OutputFormat := [human, json]

def name : OutputFormat → String
  | human => "human"
  | json => "json"

/-- The form with a name in any case of letters. -/
def ofName (given : String) : Except CheckError OutputFormat :=
  let lower := Unicode.lowerText given
  match all.find? (·.name == lower) with
  | some format => .ok format
  | none => .error (.configuration ("Unknown output format '" ++ lower ++
      "', expected one of: " ++ String.intercalate ", " (all.map name)))

end OutputFormat

end CodeStyle

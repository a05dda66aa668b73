import CodeStyle.JsonValue.Printer
import CodeStyle.JsonValue.Reader
import CodeStyle.Report.Format
import CodeStyle.Report.Human

/-!
# Reports for programs

A report is shown as an indented document with its keys in order, and it is stored as a document on
one line, from which it can be loaded again. Loading accepts an array of the parts of a record in
place of an object, ignores keys it does not know, and refuses a key that comes twice.
-/
namespace CodeStyle

namespace Violation

/-- A violation as it is shown. -/
def shownJson (v : Violation) : JsonValue :=
  .object [("file", .string v.file), ("line", .nat v.line), ("message", .string v.message)]

/-- A violation as it is stored. -/
def toJson (v : Violation) : JsonValue :=
  .object [("location", .object [("file", .string v.file), ("line", .nat v.line)]),
    ("message", .string v.message)]

end Violation

namespace Summary

def toJson (s : Summary) : JsonValue :=
  .object [("total_files", .nat s.totalFiles),
    ("files_with_violations", .nat s.filesWithViolations), ("active_rules", .nat s.activeRules),
    ("execution_time_ms", .nat s.milliseconds)]

end Summary

namespace Report

def shownJson (r : Report) (max : Option Nat) : JsonValue :=
  .object [("skipped_files", .strings r.skipped),
    ("summary", .object [("active_rules", .nat r.summary.activeRules),
      ("execution_time_ms", .nat r.summary.milliseconds),
      ("files_with_violations", .nat r.summary.filesWithViolations),
      ("total_files", .nat r.summary.totalFiles),
      ("total_violations", .nat r.violations.length)]),
    ("violations", .array ((r.shown max).map Violation.shownJson))]

def toJson (r : Report) : JsonValue :=
  .object [("violations", .array (r.violations.map Violation.toJson)),
    ("skipped_files", .strings r.skipped), ("summary", r.summary.toJson)]

def stored (r : Report) : String := r.toJson.compact

def render (r : Report) (format : OutputFormat) (view : View) : String :=
  match format with
  | .human => r.human view
  | .json => (r.shownJson view.max).pretty 0

end Report

/-- The parts of a record with some keys. A part is missing if the object does not have its key or
the array ends before it. -/
def recordParts? (keys : List String) : JsonValue → Option (List (Option JsonValue))
  | .object fields =>
    let v := JsonValue.object fields
    if keys.any fun key => 1 < (v.all key).length then none
    else some (keys.map fun key => v.get? key)
  | .array items =>
    if items.length ≤ keys.length then
      some (items.map some ++ List.replicate (keys.length - items.length) none)
    else none
  | _ => none

/-- A whole number below a bound. -/
def natBelow? (bound : Nat) (v : JsonValue) : Option Nat := v.asNat?.filter (· < bound)

/-- The bound of line numbers, which have 32 bits. -/
def lineBound : Nat := 0x100000000

/-- The bound of counts, which have 64 bits. -/
def countBound : Nat := 0x10000000000000000

namespace Violation

def ofJson? (v : JsonValue) : Option Violation :=
  match recordParts? ["location", "message"] v with
  | some [some location, some message] =>
    match recordParts? ["file", "line"] location, message.asString? with
    | some [some file, some line], some message =>
      match file.asString?, natBelow? lineBound line with
      | some file, some line => some ⟨file, line, message⟩
      | _, _ => none
    | _, _ => none
  | _ => none

end Violation

namespace Summary

def keys : List String :=
  ["total_files", "files_with_violations", "active_rules", "execution_time_ms"]

def ofJson? (v : JsonValue) : Option Summary :=
  match recordParts? keys v with
  | some parts =>
    match parts.mapM fun part => part.bind (natBelow? countBound) with
    | some [files, withViolations, rules, ms] => some ⟨files, withViolations, rules, ms⟩
    | _ => none
  | none => none

end Summary

namespace Report

/-- Loads a list of texts, none if it is missing. -/
def loadSkipped? : Option JsonValue → Option (List String)
  | none => some []
  | some v => v.asArray?.bind fun items => items.mapM (·.asString?)

def ofJson? (v : JsonValue) : Option Report :=
  match recordParts? ["violations", "skipped_files", "summary"] v with
  | some [some violations, skipped, some summary] =>
    match violations.asArray?.bind fun items => items.mapM Violation.ofJson?,
        loadSkipped? skipped, Summary.ofJson? summary with
    | some vs, some skipped, some summary => some ⟨vs, skipped, summary⟩
    | _, _, _ => none
  | _ => none

def load? (text : String) : Option Report := (JsonValue.read? text.toList).bind ofJson?

end Report

end CodeStyle

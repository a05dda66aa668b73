import CodeStyle.Proofs.JsonValue.RoundTrip
import CodeStyle.Proofs.Report.Groups
import CodeStyle.Report.Json
import Mathlib

/-!
# What the forms of a report show

A document is read back as the violations that are shown, the files that could not be read and the
number of all violations. The text for people shows the same violations by file, the same files and
the same number.
-/
namespace CodeStyle

open JsonValue (HasWholeNumbers)

/-- What a program finds in a document. -/
structure Shown where
  violations : List Violation
  skipped : List String
  total : Nat
deriving DecidableEq, Repr

namespace Violation

/-- Reads a violation from its shown form. -/
def ofShownJson? (v : JsonValue) : Option Violation := do
  let file ← (v.get? "file").bind (·.asString?)
  let line ← (v.get? "line").bind (·.asNat?)
  let message ← (v.get? "message").bind (·.asString?)
  return ⟨file, line, message⟩

end Violation

namespace Shown

/-- Reads what a report shows from the value of a document. -/
def ofJson? (v : JsonValue) : Option Shown := do
  let violations ← (v.get? "violations").bind (·.asArray?)
  let skipped ← (v.get? "skipped_files").bind (·.asArray?)
  let total ← ((v.get? "summary").bind (·.get? "total_violations")).bind (·.asNat?)
  return ⟨← violations.mapM Violation.ofShownJson?, ← skipped.mapM (·.asString?), total⟩

/-- Reads what a report shows from a document. -/
def read? (text : String) : Option Shown := (JsonValue.read? text.toList).bind ofJson?

end Shown

namespace JsonValue

theorem asString?_string (s : String) : (string s).asString? = some s := rfl

/-- A number is read from the digits it is written with. -/
theorem asNat?_nat (n : Nat) : (nat n).asNat? = some n := by
  have hdigits : (toString n).toList.all Char.isDigit = true := by
    rw [toList_toString, List.all_eq_true]
    exact fun c hc => Nat.isDigit_of_mem_toDigits (by decide) (by decide) hc
  rw [nat, asNat?, if_pos hdigits]
  exact Nat.toNat?_repr n

/-- Items are read one by one. -/
theorem mapM_map_eq_some {α : Type} {decode? : JsonValue → Option α} {encode : α → JsonValue}
    {as : List α} (h : ∀ a ∈ as, decode? (encode a) = some a) :
    (as.map encode).mapM decode? = some as := by
  induction as with
  | nil => rfl
  | cons a as ih =>
    obtain ⟨ha, has⟩ := List.forall_mem_cons.mp h
    simp [ha, ih has]

end JsonValue

theorem Violation.ofShownJson?_shownJson (v : Violation) :
    ofShownJson? v.shownJson = some v := by
  simp [ofShownJson?, shownJson, JsonValue.get?, JsonValue.all, JsonValue.asString?,
    JsonValue.asNat?_nat]

namespace Report

/-- The numbers of a document are counts. -/
theorem hasWholeNumbers_shownJson (r : Report) (max : Option Nat) :
    HasWholeNumbers (r.shownJson max) := by
  have hviolations : HasWholeNumbers (.array ((r.shown max).map Violation.shownJson)) :=
    .array_map (fun v => .object (by simp [HasWholeNumbers.string, HasWholeNumbers.nat])) _
  exact .object
    (by simp [HasWholeNumbers.strings, hviolations, HasWholeNumbers.object, HasWholeNumbers.nat])

theorem ofJson?_shownJson (r : Report) (max : Option Nat) :
    Shown.ofJson? (r.shownJson max) =
      some ⟨r.shown max, r.skipped, r.violations.length⟩ := by
  have hviolations : ((r.shown max).map Violation.shownJson).mapM Violation.ofShownJson? =
      some (r.shown max) :=
    JsonValue.mapM_map_eq_some fun v _ => Violation.ofShownJson?_shownJson v
  have hskipped : (r.skipped.map .string).mapM JsonValue.asString? = some r.skipped :=
    JsonValue.mapM_map_eq_some fun file _ => JsonValue.asString?_string file
  simp [Shown.ofJson?, shownJson, JsonValue.get?, JsonValue.all, JsonValue.asArray?,
    JsonValue.strings, JsonValue.asNat?_nat, hviolations, hskipped]

/-- A document is read back as what it shows. -/
theorem read?_render_json (r : Report) (view : View) :
    Shown.read? (r.render .json view) =
      some ⟨r.shown view.max, r.skipped, r.violations.length⟩ := by
  rw [Shown.read?, render, JsonValue.read?_pretty (hasWholeNumbers_shownJson r view.max),
    Option.bind_some, ofJson?_shownJson]

theorem shown_eq_take (r : Report) (max : Option Nat) :
    r.shown max = r.violations.take (max.getD r.violations.length) := by
  cases max with
  | none => simp [shown]
  | some n => rfl

theorem listing_plain (vs : List Violation) :
    listing false vs = if vs = [] then "No violations found\n" else "Violations found\n\n" ++
      String.join ((groups vs).map fun g => g.file ++ "\n" ++
        String.join (g.violations.map fun v =>
          "  " ++ v.message ++ " at " ++ v.file ++ ":" ++ toString v.line ++ "\n") ++ "\n") := by
  have hline : violationLine = fun v =>
      "  " ++ v.message ++ " at " ++ v.file ++ ":" ++ toString v.line ++ "\n" := by
    funext v
    simp only [violationLine, Violation.text, Violation.location, String.append_assoc]
  have hgroup : groupText false = fun g => g.file ++ "\n" ++ String.join (g.violations.map fun v =>
      "  " ++ v.message ++ " at " ++ v.file ++ ":" ++ toString v.line ++ "\n") ++ "\n" := by
    rw [← hline]
    rfl
  rw [← hgroup]
  cases vs <;> rfl

theorem skippedText_plain (r : Report) :
    r.skippedText false = if r.skipped = [] then "" else "Files that could not be read\n" ++
      String.join (r.skipped.map fun file => "  " ++ file ++ "\n") ++ "\n" := by
  unfold skippedText hasSkipped
  cases r.skipped <;> rfl

theorem summaryText_plain (r : Report) :
    r.summaryText false = "Summary: " ++ toString r.violations.length ++ " violation" ++
      (if r.violations.length = 1 then "" else "s") ++ " in " ++ toString r.summary.totalFiles ++
      " files, " ++ toString r.summary.activeRules ++ " rules (" ++ r.secondsText ++ "s)\n" := by
  have hword : "Summary: " = "Summary:" ++ " " := rfl
  rw [hword]
  simp only [summaryText, Paint.apply, countText, Bool.false_eq_true, if_false,
    String.append_assoc]
  rfl

/-- Both forms show the first violations, as many as are wanted: the document in the order of the
report, the text by file. Both list the files that could not be read and count all violations. -/
theorem renderings_show_same (r : Report) (max : Option Nat) :
    let shown := r.violations.take (max.getD r.violations.length)
    (∀ colors, Shown.read? (r.render .json ⟨colors, max⟩) =
      some ⟨shown, r.skipped, r.violations.length⟩) ∧
    ∃ gs, IsGrouping shown gs ∧ (gs.flatMap FileGroup.violations).Perm shown ∧
      r.render .human ⟨false, max⟩ =
        (if shown = [] then "No violations found\n" else "Violations found\n\n" ++
          String.join (gs.map fun g => g.file ++ "\n" ++
            String.join (g.violations.map fun v =>
              "  " ++ v.message ++ " at " ++ v.file ++ ":" ++ toString v.line ++ "\n") ++ "\n")) ++
        (if r.skipped = [] then "" else "Files that could not be read\n" ++
          String.join (r.skipped.map fun file => "  " ++ file ++ "\n") ++ "\n") ++
        ("Summary: " ++ toString r.violations.length ++ " violation" ++
          (if r.violations.length = 1 then "" else "s") ++ " in " ++
          toString r.summary.totalFiles ++ " files, " ++ toString r.summary.activeRules ++
          " rules (" ++ r.secondsText ++ "s)\n") := by
  intro shown
  have hshown : r.shown max = shown := shown_eq_take r max
  refine ⟨fun colors => ?_, groups shown, isGrouping_groups shown, flatMap_groups_perm shown, ?_⟩
  · rw [read?_render_json, hshown]
  · rw [render, human, hshown, listing_plain, skippedText_plain, summaryText_plain]

end Report

end CodeStyle

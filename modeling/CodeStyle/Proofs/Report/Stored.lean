import CodeStyle.Proofs.Report.Renderings
import CodeStyle.Proofs.Report.Sorted

/-!
# Stored reports

Whatever has been done to a report, it is loaded from its stored form as it was: with the same
violations and files in the same order and with a summary that nothing has brought into step. Numbers
are stored with all their digits and loaded up to the bounds of their types. A list of files that is
missing counts as empty.
-/
namespace CodeStyle

open JsonValue (HasWholeNumbers IsWritten)

namespace JsonValue

def without (key : String) : JsonValue → JsonValue
  | object fields => object (fields.filter fun field => field.1 != key)
  | v => v

theorem HasWholeNumbers.without {v : JsonValue} (h : HasWholeNumbers v) (key : String) :
    HasWholeNumbers (v.without key) := by
  cases h with
  | object hfields => exact .object fun field hfield => hfields field (List.mem_of_mem_filter hfield)
  | array hitems => exact .array hitems
  | null => exact .null
  | bool b => exact .bool b
  | nat n => exact .nat n
  | string s => exact .string s

end JsonValue

theorem natBelow?_nat {bound n : Nat} (h : n < bound) : natBelow? bound (.nat n) = some n := by
  simp [natBelow?, JsonValue.asNat?_nat, h]

/-- Whether the numbers of a summary have the size of counts. -/
structure Summary.Fits (s : Summary) : Prop where
  totalFiles : s.totalFiles < countBound
  filesWithViolations : s.filesWithViolations < countBound
  activeRules : s.activeRules < countBound
  milliseconds : s.milliseconds < countBound

/-- Whether the numbers of a report have the sizes of their types. -/
structure Report.Fits (r : Report) : Prop where
  lines : ∀ v ∈ r.violations, v.line < lineBound
  summary : r.summary.Fits

section Loading

/-- A violation is loaded as it was stored. -/
theorem Violation.ofJson?_toJson {v : Violation} (h : v.line < lineBound) :
    ofJson? v.toJson = some v := by
  simp [ofJson?, toJson, recordParts?, JsonValue.all, JsonValue.get?, JsonValue.asString?,
    natBelow?_nat h]

/-- A summary is loaded as it was stored. -/
theorem Summary.ofJson?_toJson {s : Summary} (h : s.Fits) : ofJson? s.toJson = some s := by
  simp [ofJson?, toJson, keys, recordParts?, JsonValue.all, JsonValue.get?,
    natBelow?_nat h.totalFiles, natBelow?_nat h.filesWithViolations, natBelow?_nat h.activeRules,
    natBelow?_nat h.milliseconds]

namespace Report

variable {r : Report}

def skippedKey : String := "skipped_files"

theorem hasWholeNumbers_toJson (r : Report) : HasWholeNumbers r.toJson := by
  have hviolation (v : Violation) : HasWholeNumbers v.toJson :=
    .object (by simp [HasWholeNumbers.object, HasWholeNumbers.string, HasWholeNumbers.nat])
  have hviolations := HasWholeNumbers.array_map hviolation r.violations
  have hsummary : HasWholeNumbers r.summary.toJson := .object (by simp [HasWholeNumbers.nat])
  exact .object (by simp [hviolations, HasWholeNumbers.strings, hsummary])

theorem mapM_ofJson?_toJson (h : r.Fits) :
    (r.violations.map Violation.toJson).mapM Violation.ofJson? = some r.violations :=
  JsonValue.mapM_map_eq_some fun v hv => Violation.ofJson?_toJson (h.lines v hv)

theorem loadSkipped?_strings (files : List String) :
    loadSkipped? (some (.strings files)) = some files :=
  JsonValue.mapM_map_eq_some fun file _ => JsonValue.asString?_string file

/-- A report is loaded as it was stored. -/
theorem ofJson?_toJson (h : r.Fits) : ofJson? r.toJson = some r := by
  simp [ofJson?, toJson, recordParts?, JsonValue.all, JsonValue.get?, JsonValue.asArray?,
    mapM_ofJson?_toJson h, loadSkipped?_strings, Summary.ofJson?_toJson h.summary]

/-- Without the list of files that could not be read all else is loaded as it was stored. -/
theorem ofJson?_toJson_without (h : r.Fits) :
    ofJson? (r.toJson.without skippedKey) = some { r with skipped := [] } := by
  simp [ofJson?, toJson, JsonValue.without, skippedKey, recordParts?, JsonValue.all,
    JsonValue.get?, JsonValue.asArray?, mapM_ofJson?_toJson h, loadSkipped?,
    Summary.ofJson?_toJson h.summary]

theorem load?_of_isWritten {v : JsonValue} {text : String} (h : IsWritten v text.toList) :
    load? text = ofJson? v := by
  rw [load?, JsonValue.read?_of_isWritten h, Option.bind_some]

end Report

end Loading

/-- What can be done to a report. -/
inductive Change
  | add (v : Violation)
  | skip (file : String)
  | setFiles (n : Nat)
  | setRules (n : Nat)
  | setTime (milliseconds : Nat)
  | sort

namespace Change

def apply (r : Report) : Change → Report
  | add v => r.add v
  | skip file => r.skip file
  | setFiles n => { r with summary := { r.summary with totalFiles := n } }
  | setRules n => { r with summary := { r.summary with activeRules := n } }
  | setTime n => { r with summary := { r.summary with milliseconds := n } }
  | sort => r.sort

/-- Whether the number that a change brings in has the size of its type. -/
inductive Fits : Change → Prop
  | add {v : Violation} (h : v.line < lineBound) : Fits (add v)
  | skip (file : String) : Fits (skip file)
  | setFiles {n : Nat} (h : n < countBound) : Fits (setFiles n)
  | setRules {n : Nat} (h : n < countBound) : Fits (setRules n)
  | setTime {n : Nat} (h : n < countBound) : Fits (setTime n)
  | sort : Fits sort

variable {c : Change} {r : Report}

/-- No change takes violations away. -/
theorem length_violations_le (c : Change) (r : Report) :
    r.violations.length ≤ (c.apply r).violations.length := by
  cases c with
  | add v => simp [apply, Report.add]
  | sort => exact (Violation.sort_perm r.violations).length_eq.ge
  | _ => exact Nat.le_refl _

theorem countFiles_le_length (vs : List Violation) : Report.countFiles vs ≤ vs.length := by
  rw [Report.countFiles_eq_card]
  calc (vs.map fun v => Path.parts v.file).toFinset.card
      ≤ (vs.map fun v => Path.parts v.file).length := List.toFinset_card_le _
    _ = vs.length := List.length_map _

/-- A change keeps the numbers of a report within their types. Sorting counts files, which are no
more than there are violations. -/
theorem fits_apply (hr : r.Fits) (hc : c.Fits)
    (hroom : (c.apply r).violations.length < countBound) : (c.apply r).Fits := by
  obtain ⟨hlines, htotal, hfiles, hrules, htime⟩ := hr
  cases hc with
  | add hline =>
    refine ⟨fun v hv => ?_, htotal, hfiles, hrules, htime⟩
    rcases List.mem_append.mp hv with hold | hnew
    · exact hlines v hold
    · rwa [List.mem_singleton.mp hnew]
  | skip file => exact ⟨hlines, htotal, hfiles, hrules, htime⟩
  | setFiles h => exact ⟨hlines, h, hfiles, hrules, htime⟩
  | setRules h => exact ⟨hlines, htotal, hfiles, h, htime⟩
  | setTime h => exact ⟨hlines, htotal, hfiles, hrules, h⟩
  | sort =>
    refine ⟨fun v hv => hlines v ((Violation.sort_perm r.violations).mem_iff.mp hv), htotal, ?_,
      hrules, htime⟩
    exact Nat.lt_of_le_of_lt (countFiles_le_length _) hroom

/-- Changes keep the numbers of a report within their types. -/
theorem fits_foldl_apply {changes : List Change} (hr : r.Fits) (hchanges : ∀ c ∈ changes, c.Fits)
    (hroom : (changes.foldl apply r).violations.length < countBound) :
    (changes.foldl apply r).Fits := by
  induction changes using List.reverseRecOn with
  | nil => exact hr
  | append_singleton changes c ih =>
    rw [List.foldl_concat] at hroom ⊢
    have hbefore := Nat.lt_of_le_of_lt (c.length_violations_le _) hroom
    have hold : ∀ c ∈ changes, c.Fits := fun c hc => hchanges c (List.mem_append_left _ hc)
    exact fits_apply (ih hold hbefore) (hchanges c (List.mem_append_right _ List.mem_cons_self))
      hroom

end Change

namespace Report

variable {r : Report} {changes : List Change}

theorem fits_empty : Fits { } := ⟨nofun, by decide, by decide, by decide, by decide⟩

/-- After any changes that leave no more violations than can be counted, a report is loaded from its
stored form as it is, and with no files if these are left out of the form. It does not matter where
there is space in the text. -/
theorem load?_stored_of_changes (hrun : changes.foldl Change.apply { } = r)
    (hchanges : ∀ c ∈ changes, c.Fits) (hroom : r.violations.length < countBound) :
    load? r.stored = some r ∧
    load? (r.toJson.without skippedKey).compact = some { r with skipped := [] } ∧
    ∀ text : String, (IsWritten r.toJson text.toList → load? text = some r) ∧
      (IsWritten (r.toJson.without skippedKey) text.toList →
        load? text = some { r with skipped := [] }) := by
  have hfits : r.Fits := by
    subst hrun
    exact Change.fits_foldl_apply fits_empty hchanges hroom
  have hwhole {text : String} (htext : IsWritten r.toJson text.toList) : load? text = some r := by
    rw [load?_of_isWritten htext, ofJson?_toJson hfits]
  have hwithout {text : String} (htext : IsWritten (r.toJson.without skippedKey) text.toList) :
      load? text = some { r with skipped := [] } := by
    rw [load?_of_isWritten htext, ofJson?_toJson_without hfits]
  have hnumbers := hasWholeNumbers_toJson r
  exact ⟨hwhole (JsonValue.isWritten_compact hnumbers),
    hwithout (JsonValue.isWritten_compact (hnumbers.without skippedKey)),
    fun text => ⟨hwhole, hwithout⟩⟩

/-- Changes that leave a report with files that are not counted, a line number that is as high as
can be, and a message with a quote, a backslash and a control character. -/
def lateChanges : List Change := [.setFiles 3, .setRules 18446744073709551615,
  .add ⟨"b/ä.c", 4294967295, "a \"quote\", a \\ and a \x01"⟩, .skip "b/x.java",
  .add ⟨"./a.c", 0, ""⟩, .sort, .add ⟨"c.c", 7, "Empty block"⟩, .skip "a/y.java", .setTime 12]

/-- The report is loaded with the number of files that it was sorted with. -/
theorem load?_stored_of_lateChanges :
    (∀ c ∈ lateChanges, c.Fits) ∧
    (lateChanges.foldl Change.apply { }).violations.length < countBound ∧
    load? (lateChanges.foldl Change.apply { }).stored =
      some (lateChanges.foldl Change.apply { }) ∧
    load? ((lateChanges.foldl Change.apply { }).toJson.without skippedKey).compact =
      some { lateChanges.foldl Change.apply { } with skipped := [] } ∧
    (lateChanges.foldl Change.apply { }).violations.length = 3 ∧
    (lateChanges.foldl Change.apply { }).summary.filesWithViolations = 2 := by
  have hfits : ∀ c ∈ lateChanges, c.Fits := by
    simp only [lateChanges, List.forall_mem_cons]
    exact ⟨.setFiles (by decide), .setRules (by decide), .add (by decide), .skip _, .add (by decide),
      .sort, .add (by decide), .skip _, .setTime (by decide), nofun⟩
  have hthree : (lateChanges.foldl Change.apply { }).violations.length = 3 := by
    simp [lateChanges, Change.apply, add, skip, sort, Violation.sort]
  have htwo : (lateChanges.foldl Change.apply { }).summary.filesWithViolations = 2 := by
    simp only [lateChanges, List.foldl_cons, List.foldl_nil, Change.apply, add, skip, sort,
      countFiles_sort_eq_card]
    decide +kernel
  have hroom : (lateChanges.foldl Change.apply { }).violations.length < countBound := by
    rw [hthree]
    decide
  obtain ⟨hload, hwithout, -⟩ := load?_stored_of_changes rfl hfits hroom
  exact ⟨hfits, hroom, hload, hwithout, hthree, htwo⟩

end Report

end CodeStyle

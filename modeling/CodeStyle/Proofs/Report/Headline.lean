import CodeStyle.CommandLine.Outcome

/-!
# Headlines

A report for people opens with one of two headlines and ends with the number of its violations. The
headline goes by the violations that are shown: where any may be shown, it fits the number at the end
and the exit code.
-/
namespace CodeStyle

/-- What a report for people says first. -/
inductive Headline
  | clean
  | found
deriving DecidableEq, Repr

namespace Headline

def text : Headline → String
  | clean => "No violations found"
  | found => "Violations found"

def paint : Headline → Paint
  | clean => .success
  | found => .failure

def line (h : Headline) (colors : Bool) : String := h.paint.apply colors h.text ++ "\n"

/-- Whether an output opens with a headline. -/
def Opens (h : Headline) (colors : Bool) (output : String) : Prop :=
  ∃ rest, output = h.line colors ++ rest

/-- No output opens with both headlines. -/
theorem not_opens_found_of_opens_clean {colors : Bool} {output : String}
    (h : clean.Opens colors output) : ¬ found.Opens colors output := by
  rintro ⟨rest, hfound⟩
  obtain ⟨other, hclean⟩ := h
  have hlists := congrArg String.toList (hclean.symm.trans hfound)
  -- The headlines differ in a letter without colours, in a sequence with them.
  cases colors <;> simp [line, paint, text, Paint.apply, Paint.start] at hlists

end Headline

namespace Report

/-- What an output says about a number of violations of which at most so many are shown: its
headline, and its last line. -/
structure Tells (output : String) (view : View) (total : Nat) : Prop where
  clean_iff : Headline.clean.Opens view.colors output ↔ total = 0 ∨ view.max = some 0
  found_iff : Headline.found.Opens view.colors output ↔ total ≠ 0 ∧ view.max ≠ some 0
  last : ∃ (before seconds : String) (files rules : Nat),
    output = before ++ (Paint.heading.apply view.colors "Summary:" ++ " " ++
      (if total = 0 then Paint.success else Paint.failure).apply view.colors (countText total) ++
      (" in " ++ toString files ++ " files, " ++ toString rules ++ " rules (") ++ seconds ++ "s)\n")

section Report

variable {r : Report} {view : View}

theorem shown_eq_nil_iff {max : Option Nat} :
    r.shown max = [] ↔ r.violations = [] ∨ max = some 0 := by
  cases max with
  | none => simp [shown]
  | some n => simp [shown, or_comm]

/-- The violations that are shown stand by file behind the headline. -/
theorem listing_eq (colors : Bool) (vs : List Violation) : listing colors vs =
    (if vs = [] then Headline.clean.line colors else Headline.found.line colors ++ "\n") ++
      String.join ((groups vs).map (groupText colors)) := by
  cases vs with
  | nil => exact (String.append_empty ..).symm
  | cons v vs =>
    have hbreaks : "\n\n" = "\n" ++ "\n" := rfl
    rw [if_neg (List.cons_ne_nil v vs), Headline.line, listing, hbreaks]
    simp only [String.append_assoc]
    rfl

theorem opens_clean_of_shown_eq_nil (h : r.shown view.max = []) :
    Headline.clean.Opens view.colors (r.human view) := by
  refine ⟨r.skippedText view.colors ++ r.summaryText view.colors, ?_⟩
  rw [human, h, String.append_assoc]
  rfl

theorem opens_found_of_shown_ne_nil (h : r.shown view.max ≠ []) :
    Headline.found.Opens view.colors (r.human view) := by
  rw [human, listing_eq, if_neg h]
  simp only [String.append_assoc]
  exact ⟨_, rfl⟩

/-- The headline tells whether violations are shown, the last line how many there are. -/
theorem tells_human (r : Report) (view : View) :
    Tells (r.human view) view r.violations.length where
  clean_iff := by
    rw [List.length_eq_zero_iff, ← shown_eq_nil_iff]
    refine ⟨fun hclean => ?_, opens_clean_of_shown_eq_nil⟩
    by_cases hshown : r.shown view.max = []
    · exact hshown
    · exact absurd (opens_found_of_shown_ne_nil hshown)
        (Headline.not_opens_found_of_opens_clean hclean)
  found_iff := by
    rw [Ne, List.length_eq_zero_iff, ← not_or, ← shown_eq_nil_iff]
    refine ⟨fun hfound hshown => ?_, opens_found_of_shown_ne_nil⟩
    exact Headline.not_opens_found_of_opens_clean (opens_clean_of_shown_eq_nil hshown) hfound
  last := ⟨listing view.colors (r.shown view.max) ++ r.skippedText view.colors, r.secondsText,
    r.summary.totalFiles, r.summary.activeRules, rfl⟩

end Report

end Report

namespace CommandLine

open Report (Tells)

/-- A failure to load a configuration is a failure with a message. -/
theorem failed_of_loadDocument {env : Environment} {config : Option String} {o : Outcome}
    (h : loadDocument env config = .error o) : o.code = 1 ∧ o.failure.isSome = true := by
  simp only [loadDocument] at h
  split at h
  · contradiction
  · obtain rfl := Except.error.inj h
    exact ⟨rfl, rfl⟩

/-- A check fails with a message, or it shows a report. The exit code goes by the report. -/
theorem runCheck_cases (env : Environment) (config : Option String) (colors : Bool)
    (paths : List String) (format : OutputFormat) (max : Option Nat) (options : AnalysisOptions) :
    let outcome := runCheck env config colors paths format max options
    (outcome.code = 1 ∧ outcome.failure.isSome = true) ∨
      ∃ r : Report, outcome = ⟨if r.violations = [] ∧ r.skipped = [] then 0 else 1,
        fun ms => Report.render { r with summary := { r.summary with milliseconds := ms } }
          format ⟨colors, max⟩, none⟩ := by
  intro outcome
  cases hdocument : loadDocument env config with
  | error o =>
    have houtcome : outcome = o := by simp only [outcome, runCheck, hdocument]
    exact .inl (houtcome ▸ failed_of_loadDocument hdocument)
  | ok d =>
    cases hanalyzer : Analyzer.ofDocument d options with
    | error e =>
      have houtcome : outcome = .failed "" "Failed to resolve rules" e := by
        simp only [outcome, runCheck, hdocument, hanalyzer]
      exact .inl (houtcome ▸ ⟨rfl, rfl⟩)
    | ok a =>
      cases hreport : a.checkPaths env.disk (if paths.isEmpty then ["."] else paths) with
      | error e =>
        have houtcome : outcome = .failed "" "Analysis failed" e := by
          simp only [outcome, runCheck, hdocument, hanalyzer, hreport]
        exact .inl (houtcome ▸ ⟨rfl, rfl⟩)
      | ok r =>
        refine .inr ⟨r, ?_⟩
        have hcode : (if r.hasViolations || r.hasSkipped then 1 else 0) =
            if r.violations = [] ∧ r.skipped = [] then 0 else 1 := by
          unfold Report.hasViolations Report.hasSkipped
          cases r.violations <;> cases r.skipped <;> rfl
        simp only [outcome, runCheck, hdocument, hanalyzer, hreport, hcode]

/-- Where violations may be shown at all, the headline of a report says whether there are any. So it
fits the number at the end and, in a check that does not fail, the exit code. -/
theorem headline_fits_total_and_code (r : Report) (view : Report.View) (env : Environment)
    (config : Option String) (paths : List String) (options : AnalysisOptions) :
    Tells (r.human view) view r.violations.length ∧
      let outcome := runCheck env config view.colors paths .human view.max options
      (outcome.code = 1 ∧ outcome.failure.isSome = true) ∨
        ∃ found : Report, ∀ ms,
          outcome.output ms =
            Report.human { found with summary := { found.summary with milliseconds := ms } } view ∧
          Tells (outcome.output ms) view found.violations.length ∧
          outcome.code = (if found.violations = [] ∧ found.skipped = [] then 0 else 1) ∧
          (outcome.code = 0 → Headline.clean.Opens view.colors (outcome.output ms)) ∧
          (Headline.found.Opens view.colors (outcome.output ms) → outcome.code = 1) := by
  refine ⟨Report.tells_human r view, ?_⟩
  intro outcome
  rcases runCheck_cases env config view.colors paths .human view.max options with
    hfailed | ⟨found, houtcome⟩
  · exact .inl hfailed
  · refine .inr ⟨found, fun ms => ?_⟩
    have houtput : outcome.output ms = Report.human
        { found with summary := { found.summary with milliseconds := ms } } view := by
      simp only [outcome, houtcome, Report.render]
    have hcode : outcome.code = if found.violations = [] ∧ found.skipped = [] then 0 else 1 := by
      simp only [outcome, houtcome]
    have htells : Tells (outcome.output ms) view found.violations.length :=
      houtput ▸ Report.tells_human _ view
    refine ⟨houtput, htells, hcode, fun hzero => ?_, fun hfound => ?_⟩
    · have hnone : found.violations = [] := by
        by_cases hempty : found.violations = [] ∧ found.skipped = []
        · exact hempty.1
        · simp [hcode, hempty] at hzero
      exact htells.clean_iff.mpr (.inl (by rw [hnone]; rfl))
    · have hsome : found.violations ≠ [] := by
        simpa using (htells.found_iff.mp hfound).1
      simp [hcode, hsome]

end CommandLine

namespace Report

def oneViolation : Report := ⟨[⟨"A.java", 1, "m"⟩], [], { }⟩

/-- The headline denies the violation that the last line counts. -/
theorem opens_clean_oneViolation :
    oneViolation.violations ≠ [] ∧
      oneViolation.human ⟨false, some 0⟩ =
        "No violations found\nSummary: 1 violation in 0 files, 0 rules (0.0s)\n" ∧
      Headline.clean.Opens false (oneViolation.human ⟨false, some 0⟩) ∧
      ¬ Headline.found.Opens false (oneViolation.human ⟨false, some 0⟩) := by
  have hclean : Headline.clean.Opens false (oneViolation.human ⟨false, some 0⟩) :=
    (tells_human oneViolation ⟨false, some 0⟩).clean_iff.mpr (.inr rfl)
  refine ⟨by decide, by decide +kernel, hclean,
    Headline.not_opens_found_of_opens_clean hclean⟩

end Report

end CodeStyle

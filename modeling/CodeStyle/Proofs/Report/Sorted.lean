import CodeStyle.Proofs.Report.Groups
import CodeStyle.Proofs.Report.Headline

/-!
# Sorted reports

Sorting a report keeps its violations and puts them in order: by the components of their paths, then
by line, then by message. It counts the files by components, as the text for people groups the
violations. Reports with the same violations are the same violation by violation once they are sorted,
and a sorted report is not changed by sorting it again.
-/
namespace CodeStyle

open List (Forall₂)

namespace Path

/-- Whether a path comes in front of another: its components are the first ones of the other, or the
first component that differs comes in front of that of the other. -/
def IsBefore (a b : String) : Prop :=
  List.Lex (fun p q : PathPart => p.compare q = .lt) (parts a) (parts b)

theorem compareParts_eq_lt_iff {as bs : List PathPart} :
    compareParts as bs = .lt ↔ List.Lex (fun p q => p.compare q = .lt) as bs := by
  induction as generalizing bs with
  | nil =>
    cases bs with
    | nil => exact ⟨nofun, nofun⟩
    | cons b bs => exact ⟨fun _ => .nil, fun _ => rfl⟩
  | cons a as ih =>
    cases bs with
    | nil => exact ⟨nofun, nofun⟩
    | cons b bs =>
      rw [compareParts, Ordering.then_eq_lt, ih, List.cons_lex_cons_iff,
        Std.LawfulEqCmp.compare_eq_iff_eq]

theorem compare_eq_lt_iff {a b : String} : Path.compare a b = .lt ↔ IsBefore a b :=
  compareParts_eq_lt_iff

end Path

namespace Violation

/-- Whether a violation may stand in front of another: by path, then by line, then by message. -/
def MayPrecede (v w : Violation) : Prop :=
  Path.IsBefore v.file w.file ∨ Path.parts v.file = Path.parts w.file ∧
    (v.line < w.line ∨ v.line = w.line ∧ v.message ≤ w.message)

theorem le_iff_mayPrecede {v w : Violation} : v.le w = true ↔ v.MayPrecede w := by
  have hmessage : (Ord.compare v.message w.message).isLE = true ↔ v.message ≤ w.message :=
    isLE_compareOfLessAndEq String.le_antisymm String.not_le String.le_total
  rw [le, compare, Ordering.isLE_then_iff_or, Ordering.isLE_then_iff_or, hmessage,
    Path.compare_eq_lt_iff, Path.compare_eq_eq_iff, Path.same_iff, Nat.compare_eq_lt,
    Nat.compare_eq_eq]
  rfl

end Violation

namespace Report

/-- A sorted report has as many files with violations as its violations have paths that differ in
their components. -/
theorem countFiles_sort_eq_card (vs : List Violation) :
    countFiles (Violation.sort vs) = (vs.map fun v => Path.parts v.file).toFinset.card := by
  have hparts := (Violation.sort_perm vs).map fun v => Path.parts v.file
  rw [countFiles_eq_card, List.toFinset_eq_of_perm _ _ hparts]

theorem sort_sort (r : Report) : r.sort.sort = r.sort := by
  have hsorted : Violation.sort (Violation.sort r.violations) = Violation.sort r.violations :=
    List.mergeSort_of_pairwise (Violation.pairwise_sort r.violations)
  simp only [sort, hsorted]

/-- A report for people without a limit has one section for each file with violations. -/
theorem exists_human_sort_eq (r : Report) (colors : Bool) :
    ∃ gs, IsGrouping r.sort.violations gs ∧ gs.length = r.sort.summary.filesWithViolations ∧
      r.sort.human ⟨colors, none⟩ =
        (if r.sort.violations = [] then Headline.clean.line colors
          else Headline.found.line colors ++ "\n") ++
        String.join (gs.map (groupText colors)) ++
        (r.sort.skippedText colors ++ r.sort.summaryText colors) := by
  refine ⟨groups r.sort.violations, isGrouping_groups _, rfl, ?_⟩
  rw [human, shown, listing_eq, String.append_assoc]

/-- Reports that hold the same violations, in any order and with any spelling of their paths, become
the same violation by violation. -/
theorem forall₂_same_sort {r t : Report} {vs : List Violation} (hperm : r.violations.Perm vs)
    (hsame : Forall₂ (fun v w => v.same w = true) vs t.violations) :
    Forall₂ (fun v w => v.same w = true) r.sort.violations t.sort.violations ∧
      r.sort.summary.filesWithViolations = t.sort.summary.filesWithViolations := by
  have hkeys : (r.violations.map Violation.key).Perm (t.violations.map Violation.key) :=
    Violation.forall₂_same_iff.mp hsame ▸ hperm.map Violation.key
  have hsorted := Violation.forall₂_same_sort_of_map_key_perm hkeys
  exact ⟨hsorted, countFiles_eq_of_forall₂_same hsorted⟩

/-- Sorting a report orders its violations, counts their files as the text for people shows them, and
makes reports of the same violations the same. -/
theorem sort_perm_and_forall₂_same (r : Report) :
    r.sort.violations.Perm r.violations ∧
    r.sort.violations.Pairwise Violation.MayPrecede ∧
    r.sort.skipped = r.skipped ∧
    r.sort.summary = { r.summary with
      filesWithViolations := (r.violations.map fun v => Path.parts v.file).toFinset.card } ∧
    (∀ colors, ∃ gs, IsGrouping r.sort.violations gs ∧
      gs.length = r.sort.summary.filesWithViolations ∧
      r.sort.human ⟨colors, none⟩ =
        (if r.sort.violations = [] then Headline.clean.line colors
          else Headline.found.line colors ++ "\n") ++
        String.join (gs.map (groupText colors)) ++
        (r.sort.skippedText colors ++ r.sort.summaryText colors)) ∧
    r.sort.sort = r.sort ∧
    ∀ (t : Report) (vs : List Violation), r.violations.Perm vs →
      Forall₂ (fun v w => v.same w = true) vs t.violations →
      Forall₂ (fun v w => v.same w = true) r.sort.violations t.sort.violations ∧
        r.sort.summary.filesWithViolations = t.sort.summary.filesWithViolations := by
  refine ⟨Violation.sort_perm r.violations, ?_, rfl, ?_, exists_human_sort_eq r, sort_sort r, ?_⟩
  · exact (Violation.pairwise_sort r.violations).imp Violation.le_iff_mayPrecede.mp
  · rw [← countFiles_sort_eq_card]
    rfl
  · intro t vs hperm hsame
    exact forall₂_same_sort hperm hsame

/-- A report with violations in two files, the path of one written in two ways. -/
def twoFiles : Report := ⟨[⟨"b//c.java", 2, "m"⟩, ⟨"a.java", 1, "n"⟩, ⟨"b/c.java", 1, "k"⟩], [], { }⟩

/-- The violations of the report in another order. -/
def twoFilesTurned : List Violation :=
  [⟨"a.java", 1, "n"⟩, ⟨"b//c.java", 2, "m"⟩, ⟨"b/c.java", 1, "k"⟩]

/-- A report with these violations in files whose paths are written in yet other ways. -/
def twoFilesAgain : Report :=
  ⟨[⟨"a.java", 1, "n"⟩, ⟨"b/./c.java", 2, "m"⟩, ⟨"b/c.java/", 1, "k"⟩], [], { }⟩

theorem forall₂_same_sort_twoFiles :
    twoFiles.violations.Perm twoFilesTurned ∧
      Forall₂ (fun v w => v.same w = true) twoFilesTurned twoFilesAgain.violations ∧
      Forall₂ (fun v w => v.same w = true) twoFiles.sort.violations twoFilesAgain.sort.violations ∧
      twoFilesAgain.sort.summary.filesWithViolations = 2 := by
  have hperm : twoFiles.violations.Perm twoFilesTurned := .swap _ _ _
  have hsame : Forall₂ (fun v w => v.same w = true) twoFilesTurned twoFilesAgain.violations :=
    .cons (by decide) (.cons (by decide) (.cons (by decide) .nil))
  obtain ⟨-, -, -, hsummary, -, -, hboth⟩ := sort_perm_and_forall₂_same twoFiles
  obtain ⟨hsorted, hfiles⟩ := hboth twoFilesAgain twoFilesTurned hperm hsame
  refine ⟨hperm, hsame, hsorted, ?_⟩
  rw [← hfiles, hsummary]
  decide

end Report

end CodeStyle

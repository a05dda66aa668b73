import CodeStyle.Proofs.Analysis.Analyzer
import Mathlib.Logic.Relation

/-!
# Schedules of the checks

Some workers take the files of a run in any order and finish them in any order. Whatever they do,
every file is finished once in the end, and the findings are those of a run that takes the files one
after the other and stops at the first failure that ends it.
-/
namespace CodeStyle

namespace Findings

/-- How far workers have come with the files of a run. -/
structure Progress where
  waiting : List (String × Nat)
  running : List (String × Nat)
  finished : List Finished

namespace Progress

/-- No worker has started yet. -/
def start (paths : List String) : Progress := ⟨paths.zipIdx, [], []⟩

/-- Nothing is left to do. -/
def IsDone (p : Progress) : Prop := p.waiting = [] ∧ p.running = []

/-- A free worker takes any file that waits, or a worker that checks a file finishes it. -/
inductive Step (outcome : String → FileOutcome) (workers : Nat) : Progress → Progress → Prop
  | take (before : List (String × Nat)) (job : String × Nat) (after running : List (String × Nat))
      (finished : List Finished) : running.length < workers →
      Step outcome workers ⟨before ++ job :: after, running, finished⟩
        ⟨before ++ after, job :: running, finished⟩
  | finish (waiting before : List (String × Nat)) (job : String × Nat)
      (after : List (String × Nat)) (finished : List Finished) :
      Step outcome workers ⟨waiting, before ++ job :: after, finished⟩
        ⟨waiting, before ++ after, finished ++ [finish outcome job]⟩

/-- Any number of steps. -/
def Reaches (outcome : String → FileOutcome) (workers : Nat) : Progress → Progress → Prop :=
  Relation.ReflTransGen (Step outcome workers)

variable {outcome : String → FileOutcome} {workers : Nat} {p q : Progress}

/-- The results so far and those that are still to come. -/
def results (outcome : String → FileOutcome) (p : Progress) : List Finished :=
  p.finished ++ (p.running ++ p.waiting).map (Findings.finish outcome)

/-- The number of steps that are left. -/
def stepsLeft (p : Progress) : Nat := 2 * p.waiting.length + p.running.length

theorem Step.results_perm (h : Step outcome workers p q) :
    (q.results outcome).Perm (p.results outcome) := by
  cases h with
  | take before job after running finished hfree =>
    have hjobs : ((job :: running) ++ (before ++ after)).Perm
        (running ++ (before ++ job :: after)) := by
      rw [List.cons_append, ← List.append_assoc, ← List.append_assoc]
      exact List.perm_middle.symm
    exact (hjobs.map _).append_left _
  | finish waiting before job after finished =>
    have hjobs : (job :: ((before ++ after) ++ waiting)).Perm
        ((before ++ job :: after) ++ waiting) := by
      rw [← List.cons_append]
      exact List.perm_middle.symm.append_right waiting
    rw [results, List.append_assoc, List.singleton_append, ← List.map_cons]
    exact (hjobs.map _).append_left _

theorem Step.stepsLeft_succ (h : Step outcome workers p q) : q.stepsLeft + 1 = p.stepsLeft := by
  cases h <;> simp only [stepsLeft, List.length_append, List.length_cons] <;> omega

/-- Every file is waiting, running or finished once. -/
theorem Reaches.results_perm (h : Reaches outcome workers p q) :
    (q.results outcome).Perm (p.results outcome) := by
  induction h with
  | refl => exact List.Perm.refl _
  | tail _ hstep ih => exact hstep.results_perm.trans ih

theorem results_start (outcome : String → FileOutcome) (paths : List String) :
    (start paths).results outcome = paths.zipIdx.map (Findings.finish outcome) := rfl

theorem IsDone.results_eq (h : p.IsDone) : p.results outcome = p.finished := by
  rw [results, h.1, h.2]
  simp

/-- As long as something is left to do, a worker can go on. -/
theorem exists_step (hworkers : 0 < workers) (h : ¬ p.IsDone) :
    ∃ q, Step outcome workers p q := by
  obtain ⟨waiting, running, finished⟩ := p
  cases running with
  | cons job running => exact ⟨_, .finish waiting [] job running finished⟩
  | nil =>
    cases waiting with
    | cons job waiting => exact ⟨_, .take [] job waiting [] finished hworkers⟩
    | nil => exact absurd ⟨rfl, rfl⟩ h

/-- Workers can always bring a run to its end. -/
theorem exists_reaches_isDone (hworkers : 0 < workers) (p : Progress) :
    ∃ q, Reaches outcome workers p q ∧ q.IsDone := by
  by_cases h : p.IsDone
  · exact ⟨p, .refl, h⟩
  · obtain ⟨next, hstep⟩ : ∃ next, Step outcome workers p next := exists_step hworkers h
    have hless : next.stepsLeft < p.stepsLeft := by have := hstep.stepsLeft_succ; omega
    obtain ⟨q, hreaches, hdone⟩ := exists_reaches_isDone hworkers next
    exact ⟨q, .head hstep hreaches, hdone⟩
termination_by p.stepsLeft

/-- At the end of a run every file has its result. -/
theorem finished_perm {paths : List String} (h : Reaches outcome workers (start paths) p)
    (hdone : p.IsDone) : p.finished.Perm (paths.zipIdx.map (Findings.finish outcome)) := by
  have := h.results_perm
  rwa [hdone.results_eq, results_start] at this

end Progress

theorem ofFinished_eq_checkEach {outcome : String → FileOutcome} {paths : List String}
    {finished : List Finished} (failFast : Bool)
    (h : finished.Perm (paths.zipIdx.map (finish outcome))) :
    ofFinished failFast finished = ({ } : Findings).checkEach failFast outcome paths := by
  rw [ofFinished, inFileOrder_eq_of_perm h, checkEach_eq_absorbAll]

end Findings

namespace Analyzer

open Findings (Progress)

/-- The findings in some files that are checked one after the other. -/
def findingsInTurn (a : Analyzer) (disk : Disk) (paths : List String) :
    Except CheckError Findings :=
  ({ } : Findings).checkEach a.options.failFast (a.outcome disk) paths

theorem findings_eq_findingsInTurn (a : Analyzer) (disk : Disk) (paths : List String) :
    a.findings disk paths = a.findingsInTurn disk paths := by
  rw [findings_eq_absorbAll, findingsInTurn, Findings.checkEach_eq_absorbAll]

/-- However many workers check the files and in whatever order they finish them, they can always
come to an end, and then the findings or the error are those of a run that takes the files one after
the other. -/
theorem findings_eq_of_schedule (a : Analyzer) (disk : Disk) (paths : List String) :
    (∀ workers p, 0 < workers →
      Progress.Reaches (a.outcome disk) workers (.start paths) p →
        (∃ q, Progress.Reaches (a.outcome disk) workers p q ∧ q.IsDone) ∧
        (p.IsDone → (p.finished.map fun f => f.2.1).Perm paths ∧
          Findings.ofFinished a.options.failFast p.finished = a.findingsInTurn disk paths)) ∧
    (∀ parallel, Analyzer.findings { a with options := { a.options with parallel } } disk paths =
      a.findingsInTurn disk paths) ∧
    ∀ e, a.findingsInTurn disk paths = .error e ↔ ∃ before path after,
      paths = before ++ path :: after ∧ a.firstFailure? disk path = some e ∧ a.IsFatal e ∧
      ∀ earlier ∈ before, ∀ e', a.firstFailure? disk earlier = some e' → ¬ a.IsFatal e' := by
  refine ⟨fun workers p hworkers hreaches => ⟨?_, fun hdone => ⟨?_, ?_⟩⟩, fun parallel => ?_,
    fun e => ?_⟩
  · exact Progress.exists_reaches_isDone hworkers p
  · have hfiles := (Progress.finished_perm hreaches hdone).map fun f => f.2.1
    rwa [List.map_map, show (fun f : Findings.Finished => f.2.1) ∘ Findings.finish (a.outcome disk)
      = Prod.fst from rfl, List.zipIdx_map_fst] at hfiles
  · exact Findings.ofFinished_eq_checkEach _ (Progress.finished_perm hreaches hdone)
  · exact findings_eq_findingsInTurn _ disk paths
  · rw [← findings_eq_findingsInTurn]
    exact findings_eq_error_iff_exists_first

section Overtaken

/-- An analyzer whose only rule fails on every file. -/
def failing : Analyzer := brokenAnalyzer [backwards]

/-- Two workers of which the one with the later file has finished first. -/
def overtaken : Progress :=
  ⟨[], [], [("B.java", 1), ("A.java", 0)].map (Findings.finish (failing.outcome brokenDisk))⟩

theorem reaches_overtaken : Progress.Reaches (failing.outcome brokenDisk) 2
    (.start ["A.java", "B.java"]) overtaken := by
  refine .head (.take [] ("A.java", 0) [("B.java", 1)] [] [] (by decide)) ?_
  refine .head (.take [] ("B.java", 1) [] [("A.java", 0)] [] (by decide)) ?_
  refine .head (.finish [] [] ("B.java", 1) [("A.java", 0)] []) ?_
  exact .single (.finish [] [] ("A.java", 0) [] [_])

theorem firstFailure?_failing : failing.firstFailure? brokenDisk "A.java" =
    some (.extraction "A.java" "invalid span 2:1..1:1") := by
  have hrules : failing.rulesFor "A.java" = [backwards] := by
    rw [rulesFor, ofPath?_java]
    rfl
  rw [firstFailure?, hrules, List.findSome?_singleton, Rule.failure?_eq_some_iff]
  exact check_backwards_brokenDisk

/-- The error of the first file decides also if the second, which fails as well, is finished before
it. -/
theorem ofFinished_overtaken :
    0 < 2 ∧ Progress.Reaches (failing.outcome brokenDisk) 2 (.start ["A.java", "B.java"])
      overtaken ∧ overtaken.IsDone ∧
      Findings.ofFinished false overtaken.finished =
        .error (.extraction "A.java" "invalid span 2:1..1:1") := by
  have hschedule := findings_eq_of_schedule failing brokenDisk ["A.java", "B.java"]
  have hend := hschedule.1 2 overtaken (by decide) reaches_overtaken
  have herror : failing.findingsInTurn brokenDisk ["A.java", "B.java"] =
      .error (.extraction "A.java" "invalid span 2:1..1:1") :=
    (hschedule.2.2 _).mpr
      ⟨[], "A.java", ["B.java"], rfl, firstFailure?_failing, .inr rfl, by simp⟩
  exact ⟨by decide, reaches_overtaken, ⟨rfl, rfl⟩, (hend.2 ⟨rfl, rfl⟩).2.trans herror⟩

end Overtaken

end Analyzer

end CodeStyle

import CodeStyle.Analysis.Run
import Mathlib.Data.List.Basic

/-!
# Failures of a run

Of the failures on one file the first is kept, of the files with a failure that ends the run the
first decides. Files that are checked at the same time are put back in order before anything is
decided, so that they lead to the same findings as files that are checked one after the other.
-/
namespace CodeStyle

namespace Rule

/-- The error of a rule on a file. -/
def failure? (r : Rule) (disk : Disk) (path : String) : Option CheckError :=
  match r.check disk path with
  | .ok _ => none
  | .error e => some e

theorem failure?_eq_some_iff {r : Rule} {disk : Disk} {path : String} {e : CheckError} :
    r.failure? disk path = some e ↔ r.check disk path = .error e := by
  unfold failure?
  split <;> simp_all

theorem failure?_eq_none_iff {r : Rule} {disk : Disk} {path : String} :
    r.failure? disk path = none ↔ ∃ vs, r.check disk path = .ok vs := by
  unfold failure?
  split <;> simp_all

end Rule

namespace FileOutcome

variable {disk : Disk} {path : String}

theorem failure_add (o : FileOutcome) (r : Rule) :
    (o.add (r.check disk path)).failure = o.failure.or (r.failure? disk path) := by
  unfold Rule.failure?
  cases h : r.check disk path with
  | ok vs => simp [add]
  | error e => cases ho : o.failure <;> simp [add, ho]

theorem failure_foldl_add (rules : List Rule) (o : FileOutcome) :
    (rules.foldl (fun o r => o.add (r.check disk path)) o).failure =
      o.failure.or (rules.findSome? (·.failure? disk path)) := by
  induction rules generalizing o with
  | nil => simp
  | cons r rules ih =>
    rw [List.foldl_cons, ih, failure_add, List.findSome?_cons]
    cases o.failure with
    | some e => simp
    | none => cases r.failure? disk path <;> simp

/-- The failure on a file is that of the first rule that fails. -/
theorem failure_ofRules (rules : List Rule) :
    (ofRules rules disk path).failure = rules.findSome? (·.failure? disk path) := by
  simp [ofRules, failure_foldl_add]

/-- The failure that ends a run, if there is one. -/
def ending? (o : FileOutcome) (failFast : Bool) : Option CheckError :=
  o.failure.filter fun e => failFast || !e.isUnreadableFile

end FileOutcome

namespace Findings

variable {failFast : Bool} {e : CheckError}

theorem absorb_eq_error_iff {f : Findings} {path : String} {o : FileOutcome} :
    f.absorb failFast path o = .error e ↔ o.ending? failFast = some e := by
  unfold absorb FileOutcome.ending?
  cases o.failure with
  | none => simp
  | some e' =>
    by_cases h : (failFast || !e'.isUnreadableFile) = true
    · simp [h, Option.filter]
    · simp [h, Option.filter]

/-- A run ends with the first failure that ends it. -/
theorem absorbAll_eq_error_iff {f : Findings} {outcomes : List (String × FileOutcome)} :
    f.absorbAll failFast outcomes = .error e ↔
      outcomes.findSome? (·.2.ending? failFast) = some e := by
  induction outcomes generalizing f with
  | nil => simp [absorbAll]
  | cons outcome outcomes ih =>
    obtain ⟨path, o⟩ := outcome
    rw [absorbAll, List.findSome?_cons]
    cases habsorb : f.absorb failFast path o with
    | error e' =>
      rw [absorb_eq_error_iff.mp habsorb]
      simp
    | ok f' =>
      have hnone : o.ending? failFast = none := by
        rw [Option.eq_none_iff_forall_ne_some]
        intro e' he
        rw [absorb_eq_error_iff.mpr he] at habsorb
        contradiction
      rw [hnone]
      exact ih

theorem checkEach_eq_absorbAll (outcome : String → FileOutcome) (f : Findings)
    (paths : List String) :
    f.checkEach failFast outcome paths =
      f.absorbAll failFast (paths.map fun path => (path, outcome path)) := by
  induction paths generalizing f with
  | nil => rfl
  | cons path paths ih =>
    rw [checkEach, List.map_cons, absorbAll]
    cases f.absorb failFast path (outcome path) with
    | ok f' => exact ih f'
    | error e => rfl

/-- The result of a file with its place. -/
def finish (outcome : String → FileOutcome) (job : String × Nat) : Finished :=
  (job.2, job.1, outcome job.1)

theorem map_snd_map_finish (outcome : String → FileOutcome) (paths : List String) :
    (paths.zipIdx.map (finish outcome)).map (·.2) = paths.map fun path => (path, outcome path) := by
  conv_rhs => rw [← List.zipIdx_map_fst 0 paths, List.map_map]
  rw [List.map_map]
  rfl

theorem pairwise_map_finish (outcome : String → FileOutcome) (paths : List String) :
    (paths.zipIdx.map (finish outcome)).Pairwise fun a b => a.1 < b.1 := by
  have h := @List.pairwise_lt_range' 0 paths.length 1
  rw [← List.zipIdx_map_snd, List.pairwise_map] at h
  rw [List.pairwise_map]
  exact h (by omega)

theorem eq_of_mem_map_finish {outcome : String → FileOutcome} {paths : List String}
    {a b : Finished} (ha : a ∈ paths.zipIdx.map (finish outcome))
    (hb : b ∈ paths.zipIdx.map (finish outcome)) (hplace : a.1 = b.1) : a = b := by
  obtain ⟨⟨path, place⟩, hjob, rfl⟩ := List.mem_map.mp ha
  obtain ⟨⟨path', place'⟩, hjob', rfl⟩ := List.mem_map.mp hb
  obtain rfl : place = place' := hplace
  rw [List.mem_zipIdx_iff_getElem?] at hjob hjob'
  obtain rfl : path = path' := Option.some.inj (hjob.symm.trans hjob')
  rfl

/-- Results that come in any order are put back in the order of the files, since no two of them have
the same place. -/
theorem inFileOrder_eq_of_perm {outcome : String → FileOutcome} {paths : List String}
    {finished : List Finished} (h : finished.Perm (paths.zipIdx.map (finish outcome))) :
    inFileOrder finished = paths.map fun path => (path, outcome path) := by
  have hsorted : (finished.mergeSort fun a b => a.1 ≤ b.1).Pairwise
      fun a b => decide (a.1 ≤ b.1) = true := by
    apply List.pairwise_mergeSort
    · simp only [decide_eq_true_eq]
      exact fun a b c => Nat.le_trans
    · simp only [Bool.or_eq_true, decide_eq_true_eq]
      exact fun a b => Nat.le_total a.1 b.1
  have hperm := (List.mergeSort_perm finished fun a b => a.1 ≤ b.1).trans h
  have heq : (finished.mergeSort fun a b => a.1 ≤ b.1) = paths.zipIdx.map (finish outcome) := by
    refine List.Perm.eq_of_pairwise (fun a b ha hb hab hba => ?_) hsorted
      ((pairwise_map_finish outcome paths).imp fun hlt => ?_) hperm
    · rw [decide_eq_true_eq] at hab hba
      exact eq_of_mem_map_finish (hperm.mem_iff.mp ha) hb (Nat.le_antisymm hab hba)
    · exact decide_eq_true (Nat.le_of_lt hlt)
  rw [inFileOrder, heq, map_snd_map_finish]

/-- Waiting for all checks gives the outcomes in the order in which the checks were started. -/
theorem inFileOrder_startAll (outcome : String → FileOutcome) (paths : List String) :
    inFileOrder ((startAll outcome paths).map Task.get) =
      paths.map fun path => (path, outcome path) := by
  have hget : (startAll outcome paths).map Task.get = paths.zipIdx.map (finish outcome) := by
    rw [startAll, List.map_map]
    rfl
  exact inFileOrder_eq_of_perm (hget ▸ List.Perm.refl _)

theorem checkTogether_eq_absorbAll (outcome : String → FileOutcome) (paths : List String) :
    checkTogether failFast outcome paths =
      absorbAll failFast { } (paths.map fun path => (path, outcome path)) := by
  rw [checkTogether, ofFinished, inFileOrder_startAll]

end Findings

end CodeStyle

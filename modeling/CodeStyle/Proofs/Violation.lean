import CodeStyle.Proofs.Sorting
import CodeStyle.Violation

/-!
# The order of violations

Components of paths are ordered in a line, so are paths and violations. Sorting therefore puts
violations in order and keeps all of them. What comes of it depends on the order in which they are
given only where violations write the path of a file in different ways.
-/
namespace CodeStyle

open Std (LawfulEqCmp LawfulEqOrd OrientedCmp OrientedOrd TransCmp TransOrd)

/-- Values are ordered by what a function makes of them. -/
theorem transCmp_comap {α β : Type} (cmp : β → β → Ordering) [TransCmp cmp] (f : α → β) :
    TransCmp fun a b => cmp (f a) (f b) where
  eq_swap {a b} := @OrientedCmp.eq_swap _ cmp _ (f a) (f b)
  isLE_trans {a b c} := @TransCmp.isLE_trans _ cmp _ (f a) (f b) (f c)

namespace PathPart

instance : OrientedCmp PathPart.compare where
  eq_swap {a b} := by
    cases a <;> cases b <;> first | rfl | exact OrientedOrd.eq_swap

instance : TransCmp PathPart.compare where
  isLE_trans {a b c} hab hbc := by
    -- Only three names are compared by their characters, all other kinds have fixed places.
    cases a <;> cases b <;> cases c <;>
      first | exact TransOrd.isLE_trans hab hbc | contradiction | rfl

instance : LawfulEqCmp PathPart.compare where
  compare_self {a} := by
    cases a <;> first | rfl | exact Std.ReflOrd.compare_self
  eq_of_compare {a b} h := by
    cases a <;> cases b <;>
      first | rfl | exact congrArg _ (LawfulEqOrd.eq_of_compare h) | contradiction

end PathPart

namespace Path

theorem compareParts_eq_compareLex :
    compareParts = List.compareLex PathPart.compare := by
  funext as bs
  induction as generalizing bs with
  | nil => cases bs <;> rfl
  | cons a as ih =>
    cases bs with
    | nil => rfl
    | cons b bs =>
      rw [compareParts, ih, List.compareLex_cons_cons]

instance : TransCmp compareParts := by
  rw [compareParts_eq_compareLex]
  infer_instance

instance : TransCmp Path.compare := transCmp_comap compareParts parts

/-- No order tells two paths apart that have the same components, and only those. -/
theorem compare_eq_eq_iff {a b : String} : Path.compare a b = .eq ↔ Path.same a b = true := by
  rw [Path.compare, compareParts_eq_compareLex, LawfulEqCmp.compare_eq_iff_eq, Path.same,
    beq_iff_eq]

end Path

namespace Violation

instance : TransCmp fun a b : Violation => Path.compare a.file b.file :=
  transCmp_comap Path.compare Violation.file

instance : TransCmp Violation.compare :=
  inferInstanceAs (TransCmp (compareLex (fun a b : Violation => Path.compare a.file b.file)
    (compareLex (compareOn Violation.line) (compareOn Violation.message))))

theorem le_trans (a b c : Violation) (hab : a.le b = true) (hbc : b.le c = true) :
    a.le c = true :=
  @TransCmp.isLE_trans _ Violation.compare _ _ _ _ hab hbc

theorem le_total (a b : Violation) : (a.le b || b.le a) = true := by
  have hswap : Violation.compare a b = (Violation.compare b a).swap := OrientedCmp.eq_swap
  rw [le, le, hswap]
  cases Violation.compare b a <;> rfl

theorem sort_perm (vs : List Violation) : (sort vs).Perm vs := List.mergeSort_perm vs le

theorem sort_eq_nil_iff {vs : List Violation} : sort vs = [] ↔ vs = [] := by
  rw [← List.length_eq_zero_iff, (sort_perm vs).length_eq, List.length_eq_zero_iff]

/-- Sorted violations are in order. -/
theorem pairwise_sort (vs : List Violation) : (sort vs).Pairwise fun a b => a.le b = true :=
  List.pairwise_mergeSort le_trans le_total vs

/-- Violations of two lists are sorted by sorting each list and merging the results. -/
theorem sort_append (vs ws : List Violation) :
    sort (vs ++ ws) = (sort vs).merge (sort ws) le :=
  mergeSort_append le_trans le_total vs ws

/-- All of a violation that its order can tell. -/
def key (v : Violation) : List PathPart × Nat × String := (Path.parts v.file, v.line, v.message)

theorem same_iff {a b : Violation} : a.same b = true ↔ a.key = b.key := by
  simp [same, sameLocation, key, Path.same, and_assoc]

theorem compare_eq_of_key_eq {a b c d : Violation} (hac : a.key = c.key) (hbd : b.key = d.key) :
    a.compare b = c.compare d := by
  simp only [key, Prod.mk.injEq] at hac hbd
  simp only [compare, Path.compare, hac, hbd]

/-- Violations that may stand either way are the same for the order. -/
theorem key_eq_of_le_of_le {a b : Violation} (hab : a.le b = true) (hba : b.le a = true) :
    a.key = b.key := by
  have hcompare : a.compare b = .eq := OrientedCmp.isLE_antisymm hab hba
  simp only [compare, Ordering.then_eq_eq, Path.compare_eq_eq_iff, LawfulEqOrd.compare_eq_iff_eq]
    at hcompare
  obtain ⟨hfile, hline, hmessage⟩ := hcompare
  have hsame : a.same b = true := by simp [same, sameLocation, hfile, hline, hmessage]
  exact same_iff.mp hsame

theorem forall₂_same_iff {vs ws : List Violation} :
    List.Forall₂ (fun v w => v.same w = true) vs ws ↔ vs.map key = ws.map key := by
  rw [← List.forall₂_eq_eq_eq, List.forall₂_map_left_iff, List.forall₂_map_right_iff]
  simp only [same_iff]

/-- Violations whose order can tell nothing apart are the same for it when they are sorted. -/
theorem forall₂_same_sort_of_map_key_perm {vs ws : List Violation}
    (h : (vs.map key).Perm (ws.map key)) :
    List.Forall₂ (fun v w => v.same w = true) (sort vs) (sort ws) := by
  have hsort (us : List Violation) : ((sort us).map key).Perm (us.map key) := (sort_perm us).map key
  have hperm : ((sort vs).map key).Perm ((sort ws).map key) :=
    (hsort vs).trans (h.trans (hsort ws).symm)
  have hordered (us : List Violation) : ((sort us).map key).Pairwise
      fun k l => ∀ v w : Violation, v.key = k → w.key = l → v.le w = true := by
    refine List.pairwise_map.mpr ((pairwise_sort us).imp fun {a b} hab v w hv hw => ?_)
    rw [le, compare_eq_of_key_eq hv hw]
    exact hab
  refine forall₂_same_iff.mpr
    (List.Perm.eq_of_pairwise (fun k l hk hl hkl hlk => ?_) (hordered vs) (hordered ws) hperm)
  obtain ⟨v, -, rfl⟩ := List.mem_map.mp hk
  obtain ⟨w, -, rfl⟩ := List.mem_map.mp hl
  exact key_eq_of_le_of_le (hkl v w rfl rfl) (hlk w v rfl rfl)

/-- However violations are given, sorted they are the same for their order. -/
theorem forall₂_same_sort_of_perm {vs ws : List Violation} (h : vs.Perm ws) :
    List.Forall₂ (fun v w => v.same w = true) (sort vs) (sort ws) :=
  forall₂_same_sort_of_map_key_perm (h.map key)

end Violation

end CodeStyle

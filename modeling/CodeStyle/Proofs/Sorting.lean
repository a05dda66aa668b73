import Mathlib.Data.List.Sort

/-!
# Sorting in parts

Sorting keeps elements in their order that the relation does not tell apart. A list in two parts is
therefore sorted by sorting both and merging the results, where those of the first part go first.
-/
namespace CodeStyle

section Parts

open List (zipIdxLE)

variable {α : Type} {le : α → α → Bool}

/-- Two elements that may stand either way have the same place. -/
theorem snd_eq_of_zipIdxLE {a b : α × Nat} (hab : zipIdxLE le a b = true)
    (hba : zipIdxLE le b a = true) : a.2 = b.2 := by
  unfold zipIdxLE at hab hba
  cases hle : le a.1 b.1 <;> cases hge : le b.1 a.1 <;> simp_all
  omega

/-- The first place that is counted makes no difference. -/
theorem map_fst_mergeSort_zipIdx (l : List α) (first : Nat) :
    ((l.zipIdx first).mergeSort (zipIdxLE le)).map (·.1) = l.mergeSort le := by
  have hshift : l.zipIdx first = l.zipIdx.map fun p => (p.1, first + p.2) :=
    List.zipIdx_eq_map_add
  have hsort : (l.zipIdx.mergeSort (zipIdxLE le)).map (fun p => (p.1, first + p.2)) =
      (l.zipIdx.map fun p => (p.1, first + p.2)).mergeSort (zipIdxLE le) := by
    refine List.map_mergeSort fun a _ b _ => ?_
    simp [zipIdxLE]
  rw [hshift, ← hsort, List.map_map]
  exact List.mergeSort_zipIdx

/-- Elements with their places are told apart, so that only one list of them is sorted. -/
theorem mergeSort_zipIdx_append
    (htrans : ∀ a b c : α, le a b = true → le b c = true → le a c = true)
    (htotal : ∀ a b : α, (le a b || le b a) = true) (as bs : List α) :
    (as ++ bs).zipIdx.mergeSort (zipIdxLE le) =
      (as.zipIdx.mergeSort (zipIdxLE le)).merge
        ((bs.zipIdx as.length).mergeSort (zipIdxLE le)) (zipIdxLE le) := by
  have htrans' := List.zipIdxLE_trans htrans
  have htotal' := List.zipIdxLE_total htotal
  have hsorted (l : List (α × Nat)) := List.pairwise_mergeSort htrans' htotal' l
  have hperm : ((as.zipIdx.mergeSort (zipIdxLE le)).merge
      ((bs.zipIdx as.length).mergeSort (zipIdxLE le)) (zipIdxLE le)).Perm (as ++ bs).zipIdx := by
    rw [List.zipIdx_append, Nat.zero_add]
    exact (List.merge_perm_append _).trans
      ((List.mergeSort_perm _ _).append (List.mergeSort_perm _ _))
  refine List.Perm.eq_of_pairwise (fun a b ha hb hab hba => ?_) (hsorted _)
    (List.pairwise_merge htrans' htotal' _ _ (hsorted _) (hsorted _))
    ((List.mergeSort_perm _ _).trans hperm.symm)
  have ha := List.mem_zipIdx_iff_getElem?.mp (List.mem_mergeSort.mp ha)
  have hb := List.mem_zipIdx_iff_getElem?.mp (hperm.mem_iff.mp hb)
  have hplace : a.2 = b.2 := snd_eq_of_zipIdxLE hab hba
  rw [hplace, hb] at ha
  exact Prod.ext (Option.some.inj ha).symm hplace

theorem mergeSort_append
    (htrans : ∀ a b c : α, le a b = true → le b c = true → le a c = true)
    (htotal : ∀ a b : α, (le a b || le b a) = true) (as bs : List α) :
    (as ++ bs).mergeSort le = (as.mergeSort le).merge (bs.mergeSort le) le := by
  rw [← List.mergeSort_zipIdx, mergeSort_zipIdx_append htrans htotal, List.merge_stable,
    map_fst_mergeSort_zipIdx, map_fst_mergeSort_zipIdx]
  intro a b ha hb
  have ha := List.snd_lt_of_mem_zipIdx (List.mem_mergeSort.mp ha)
  have hb := List.le_snd_of_mem_zipIdx (List.mem_mergeSort.mp hb)
  omega

end Parts

end CodeStyle

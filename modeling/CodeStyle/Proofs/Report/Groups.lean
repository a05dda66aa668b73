import CodeStyle.Proofs.Violation
import CodeStyle.Report.Basic
import Mathlib.Data.Finset.Card
import Mathlib.Data.List.Induction

/-!
# Violations by file

Groups hold all violations and nothing else: one group a file, however its path is written, in the
order of the paths, each with the violations of its file in the order given.
-/
namespace CodeStyle

open Std (OrientedCmp TransCmp)

namespace Path

theorem same_iff {a b : String} : same a b = true ↔ parts a = parts b := by rw [same, beq_iff_eq]

theorem same_refl (a : String) : same a a = true := same_iff.mpr rfl

theorem same_eq_false_of_compare_ne_eq {a b : String} (h : Path.compare a b ≠ .eq) :
    same a b = false := by
  rw [Ne, compare_eq_eq_iff] at h
  exact Bool.eq_false_iff.mpr h

/-- A path in front of another has other components. -/
theorem same_eq_false_of_compare_eq_lt {a b : String} (h : Path.compare a b = .lt) :
    same a b = false :=
  same_eq_false_of_compare_ne_eq (by simp [h])

end Path

namespace Report

/-- Whether groups stand in the order of their paths, no two under the same path. -/
def AreOrdered (gs : List FileGroup) : Prop :=
  gs.Pairwise fun g h => Path.compare g.file h.file = .lt

/-- Whether groups are the violations of a list by file. -/
structure IsGrouping (vs : List Violation) (gs : List FileGroup) : Prop where
  ordered : AreOrdered gs
  violations_eq : ∀ g ∈ gs, g.violations = vs.filter fun v => Path.same v.file g.file
  file_eq : ∀ g ∈ gs, g.violations.head?.map Violation.file = some g.file
  covers : ∀ v ∈ vs, ∃ g ∈ gs, Path.same v.file g.file = true

section Place

variable {v : Violation} {g : FileGroup} {gs : List FileGroup}

theorem file_of_mem_place (h : g ∈ place v gs) :
    g.file = v.file ∨ ∃ old ∈ gs, g.file = old.file := by
  induction gs with
  | nil =>
    obtain rfl := List.mem_singleton.mp h
    exact .inl rfl
  | cons first gs ih =>
    rw [place] at h
    cases hcompare : Path.compare v.file first.file with
    | lt =>
      simp only [hcompare, List.mem_cons] at h
      rcases h with rfl | hold
      · exact .inl rfl
      · exact .inr ⟨g, List.mem_cons.mpr hold, rfl⟩
    | eq =>
      simp only [hcompare, List.mem_cons] at h
      rcases h with rfl | hold
      · exact .inr ⟨first, List.mem_cons_self, rfl⟩
      · exact .inr ⟨g, List.mem_cons_of_mem _ hold, rfl⟩
    | gt =>
      simp only [hcompare, List.mem_cons] at h
      rcases h with rfl | hnew
      · exact .inr ⟨_, List.mem_cons_self, rfl⟩
      · rcases ih hnew with hfile | ⟨old, hold, hfile⟩
        · exact .inl hfile
        · exact .inr ⟨old, List.mem_cons_of_mem _ hold, hfile⟩

theorem areOrdered_place (h : AreOrdered gs) : AreOrdered (place v gs) := by
  induction gs with
  | nil => exact List.pairwise_singleton _ _
  | cons first gs ih =>
    obtain ⟨hfirst, hgs⟩ := List.pairwise_cons.mp h
    rw [place]
    cases hcompare : Path.compare v.file first.file with
    | lt =>
      refine List.pairwise_cons.mpr ⟨fun g hg => ?_, h⟩
      rcases List.mem_cons.mp hg with rfl | hg
      · exact hcompare
      · exact TransCmp.lt_trans hcompare (hfirst g hg)
    | eq => exact List.pairwise_cons.mpr ⟨hfirst, hgs⟩
    | gt =>
      refine List.pairwise_cons.mpr ⟨fun g hg => ?_, ih hgs⟩
      rcases file_of_mem_place hg with hfile | ⟨old, hold, hfile⟩
      · rw [hfile]
        exact OrientedCmp.gt_iff_lt.mp hcompare
      · rw [hfile]
        exact hfirst old hold

/-- A violation comes to the group of its file, or it is the first of its file. All other groups
stay as they are. -/
theorem mem_place_iff (h : AreOrdered gs) :
    g ∈ place v gs ↔ (g ∈ gs ∧ Path.same v.file g.file = false) ∨
      (∃ old ∈ gs, Path.same v.file old.file = true ∧ g = ⟨old.file, old.violations ++ [v]⟩) ∨
      ((∀ old ∈ gs, Path.same v.file old.file = false) ∧ g = ⟨v.file, [v]⟩) := by
  induction gs with
  | nil => simp [place]
  | cons first gs ih =>
    obtain ⟨hfirst, hgs⟩ := List.pairwise_cons.mp h
    rw [place]
    -- In front of the first group the violation is in front of all of them, since they are ordered.
    cases hcompare : Path.compare v.file first.file with
    | lt =>
      have hother : ∀ old ∈ first :: gs, Path.same v.file old.file = false := by
        refine List.forall_mem_cons.mpr ⟨Path.same_eq_false_of_compare_eq_lt hcompare,
          fun old hold => ?_⟩
        exact Path.same_eq_false_of_compare_eq_lt (TransCmp.lt_trans hcompare (hfirst old hold))
      constructor
      · intro hg
        rcases List.mem_cons.mp hg with rfl | hold
        · exact .inr (.inr ⟨hother, rfl⟩)
        · exact .inl ⟨hold, hother g hold⟩
      · rintro (⟨hold, -⟩ | ⟨old, hold, hsame, -⟩ | ⟨-, rfl⟩)
        · exact List.mem_cons_of_mem _ hold
        · simp [hother old hold] at hsame
        · exact List.mem_cons_self
    | eq =>
      have hsame : Path.same v.file first.file = true := Path.compare_eq_eq_iff.mp hcompare
      have hother : ∀ old ∈ gs, Path.same v.file old.file = false := fun old hold =>
        Path.same_eq_false_of_compare_eq_lt (TransCmp.lt_of_eq_of_lt hcompare (hfirst old hold))
      constructor
      · intro hg
        rcases List.mem_cons.mp hg with rfl | hold
        · exact .inr (.inl ⟨first, List.mem_cons_self, hsame, rfl⟩)
        · exact .inl ⟨List.mem_cons_of_mem _ hold, hother g hold⟩
      · rintro (⟨hold, hfile⟩ | ⟨old, hold, hfile, rfl⟩ | ⟨hnone, -⟩)
        · rcases List.mem_cons.mp hold with rfl | hold
          · simp [hsame] at hfile
          · exact List.mem_cons_of_mem _ hold
        · rcases List.mem_cons.mp hold with rfl | hold
          · exact List.mem_cons_self
          · simp [hother old hold] at hfile
        · simp [hnone first List.mem_cons_self] at hsame
    | gt =>
      have hother : Path.same v.file first.file = false :=
        Path.same_eq_false_of_compare_ne_eq (by simp [hcompare])
      simp only [List.mem_cons, ih hgs]
      constructor
      · rintro (rfl | ⟨hold, hfile⟩ | ⟨old, hold, hfile, rfl⟩ | ⟨hnone, rfl⟩)
        · exact .inl ⟨.inl rfl, hother⟩
        · exact .inl ⟨.inr hold, hfile⟩
        · exact .inr (.inl ⟨old, .inr hold, hfile, rfl⟩)
        · exact .inr (.inr ⟨fun old hold => hold.elim (· ▸ hother) (hnone old), rfl⟩)
      · rintro (⟨rfl | hold, hfile⟩ | ⟨old, rfl | hold, hfile, rfl⟩ | ⟨hnone, rfl⟩)
        · exact .inl rfl
        · exact .inr (.inl ⟨hold, hfile⟩)
        · simp [hother] at hfile
        · exact .inr (.inr (.inl ⟨old, hold, hfile, rfl⟩))
        · exact .inr (.inr (.inr ⟨fun old hold => hnone old (.inr hold), rfl⟩))

/-- The group of a path stays under this path. -/
theorem exists_mem_place_of_mem (h : AreOrdered gs) (hg : g ∈ gs) :
    ∃ new ∈ place v gs, new.file = g.file := by
  cases hsame : Path.same v.file g.file with
  | false => exact ⟨g, (mem_place_iff h).mpr (.inl ⟨hg, hsame⟩), rfl⟩
  | true => exact ⟨_, (mem_place_iff h).mpr (.inr (.inl ⟨g, hg, hsame, rfl⟩)), rfl⟩

/-- There is a group for the violation that is added. -/
theorem exists_mem_place_same (h : AreOrdered gs) :
    ∃ new ∈ place v gs, Path.same v.file new.file = true := by
  by_cases hold : ∃ old ∈ gs, Path.same v.file old.file = true
  · obtain ⟨old, hold, hsame⟩ := hold
    exact ⟨_, (mem_place_iff h).mpr (.inr (.inl ⟨old, hold, hsame, rfl⟩)), hsame⟩
  · have hnone : ∀ old ∈ gs, Path.same v.file old.file = false := by simpa using hold
    exact ⟨_, (mem_place_iff h).mpr (.inr (.inr ⟨hnone, rfl⟩)), Path.same_refl _⟩

/-- Groups gain the violation that is added, and nothing else. -/
theorem flatMap_place_perm (v : Violation) (gs : List FileGroup) :
    ((place v gs).flatMap FileGroup.violations).Perm (v :: gs.flatMap FileGroup.violations) := by
  induction gs with
  | nil => simp [place]
  | cons first gs ih =>
    rw [place]
    cases Path.compare v.file first.file with
    | lt => simp
    | eq =>
      simp only [List.flatMap_cons, List.append_assoc]
      exact List.perm_middle
    | gt =>
      simp only [List.flatMap_cons]
      exact (ih.append_left _).trans List.perm_middle

end Place

/-- One more violation turns groups of a list into groups of the longer list. -/
theorem IsGrouping.place {vs : List Violation} {gs : List FileGroup} (h : IsGrouping vs gs)
    (v : Violation) : IsGrouping (vs ++ [v]) (place v gs) where
  ordered := areOrdered_place h.ordered
  violations_eq g hg := by
    rcases (mem_place_iff h.ordered).mp hg with
      ⟨hold, hfile⟩ | ⟨old, hold, hfile, rfl⟩ | ⟨hnone, rfl⟩
    · rw [List.filter_append, h.violations_eq g hold]
      simp [hfile]
    · rw [List.filter_append, h.violations_eq old hold]
      simp [hfile]
    · have hother : vs.filter (fun w => Path.same w.file v.file) = [] := by
        refine List.filter_eq_nil_iff.mpr fun w hw hsame => ?_
        obtain ⟨old, hold, hfile⟩ := h.covers w hw
        have hsameOld : Path.same v.file old.file = true :=
          Path.same_iff.mpr ((Path.same_iff.mp hsame).symm.trans (Path.same_iff.mp hfile))
        simp [hnone old hold] at hsameOld
      rw [List.filter_append, hother]
      simp [Path.same_refl]
  file_eq g hg := by
    rcases (mem_place_iff h.ordered).mp hg with
      ⟨hold, -⟩ | ⟨old, hold, -, rfl⟩ | ⟨-, rfl⟩
    · exact h.file_eq g hold
    · obtain ⟨first, hfirst, hfile⟩ := Option.map_eq_some_iff.mp (h.file_eq old hold)
      simp [List.head?_append, hfirst, hfile]
    · rfl
  covers w hw := by
    rcases List.mem_append.mp hw with hold | hnew
    · obtain ⟨g, hg, hsame⟩ := h.covers w hold
      obtain ⟨new, hnew, hfile⟩ := exists_mem_place_of_mem (v := v) h.ordered hg
      exact ⟨new, hnew, hfile ▸ hsame⟩
    · obtain rfl := List.mem_singleton.mp hnew
      exact exists_mem_place_same h.ordered

theorem groups_concat (vs : List Violation) (v : Violation) :
    groups (vs ++ [v]) = place v (groups vs) := by
  rw [groups, List.foldl_append]
  rfl

/-- The groups of a list are its violations by file. -/
theorem isGrouping_groups (vs : List Violation) : IsGrouping vs (groups vs) := by
  induction vs using List.reverseRecOn with
  | nil => exact ⟨.nil, nofun, nofun, nofun⟩
  | append_singleton vs v ih =>
    rw [groups_concat]
    exact ih.place v

/-- Every violation is in one group, as often as it is in the list. -/
theorem flatMap_groups_perm (vs : List Violation) :
    ((groups vs).flatMap FileGroup.violations).Perm vs := by
  induction vs using List.reverseRecOn with
  | nil => exact .nil
  | append_singleton vs v ih =>
    rw [groups_concat]
    calc ((place v (groups vs)).flatMap FileGroup.violations).Perm
          (v :: (groups vs).flatMap FileGroup.violations) := flatMap_place_perm v _
      List.Perm _ (v :: vs) := ih.cons v
      List.Perm _ (vs ++ [v]) := (List.perm_append_singleton v vs).symm

/-- There are as many groups as paths that differ in their components. -/
theorem countFiles_eq_card (vs : List Violation) :
    countFiles vs = (vs.map fun v => Path.parts v.file).toFinset.card := by
  have hgroups := isGrouping_groups vs
  have hnodup : ((groups vs).map fun g => Path.parts g.file).Nodup := by
    refine List.pairwise_map.mpr (hgroups.ordered.imp fun hless hsame => ?_)
    have hother := Path.same_eq_false_of_compare_eq_lt hless
    simp [Path.same_iff.mpr hsame] at hother
  have hfiles : ((groups vs).map fun g => Path.parts g.file).toFinset =
      (vs.map fun v => Path.parts v.file).toFinset := by
    ext parts
    simp only [List.mem_toFinset, List.mem_map]
    constructor
    · rintro ⟨g, hg, rfl⟩
      obtain ⟨v, hv, hfile⟩ := Option.map_eq_some_iff.mp (hgroups.file_eq g hg)
      have hmem : v ∈ vs := by
        have hhead := List.mem_of_head? hv
        rw [hgroups.violations_eq g hg] at hhead
        exact List.mem_of_mem_filter hhead
      exact ⟨v, hmem, by rw [hfile]⟩
    · rintro ⟨v, hv, rfl⟩
      obtain ⟨g, hg, hsame⟩ := hgroups.covers v hv
      exact ⟨g, hg, (Path.same_iff.mp hsame).symm⟩
  rw [← hfiles, List.toFinset_card_of_nodup hnodup, List.length_map]
  rfl

/-- Violations that are the same for their order are in the same number of files. -/
theorem countFiles_eq_of_forall₂_same {vs ws : List Violation}
    (h : List.Forall₂ (fun v w => v.same w = true) vs ws) : countFiles vs = countFiles ws := by
  have hkeys := congrArg (List.map Prod.fst) (Violation.forall₂_same_iff.mp h)
  have hparts : (vs.map fun v => Path.parts v.file) = ws.map fun w => Path.parts w.file := by
    rw [List.map_map, List.map_map] at hkeys
    exact hkeys
  rw [countFiles_eq_card, countFiles_eq_card, hparts]

end Report

end CodeStyle

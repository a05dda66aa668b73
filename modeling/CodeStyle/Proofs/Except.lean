import Mathlib.Data.List.Forall2
import Mathlib.Tactic.Common

/-!
# Results of computations that may fail

What is known of a computation when the result of a function on its value is known, and of a list of
computations that are made one after the other up to the first that fails.
-/
namespace CodeStyle.Except

section Map

variable {ε α β : Type} {f : α → β}

@[simp] theorem map_ok {a : α} : Except.map f (.ok a : Except ε α) = .ok (f a) := rfl

@[simp] theorem map_error {e : ε} : Except.map f (.error e : Except ε α) = .error e := rfl

theorem map_eq_ok_iff {x : Except ε α} {b : β} : x.map f = .ok b ↔ ∃ a, x = .ok a ∧ f a = b := by
  cases x <;> simp

theorem map_eq_error_iff {x : Except ε α} {e : ε} : x.map f = .error e ↔ x = .error e := by
  cases x <;> simp

theorem exists_map_eq_ok_iff {x : Except ε α} : (∃ b, x.map f = .ok b) ↔ ∃ a, x = .ok a := by
  cases x <;> simp

end Map

section MapM

variable {ε α β : Type} {f : α → Except ε β} {a : α} {l : List α}

@[simp] theorem pure_eq_ok : (pure a : Except ε α) = .ok a := rfl

theorem mapM_cons_of_ok {b : β} (h : f a = .ok b) : (a :: l).mapM f = (l.mapM f).map (b :: ·) := by
  simp only [List.mapM_cons, h]
  cases l.mapM f <;> rfl

theorem mapM_cons_of_error {e : ε} (h : f a = .error e) : (a :: l).mapM f = .error e := by
  simp only [List.mapM_cons, h]
  rfl

/-- A list of computations succeeds if all of them do. -/
theorem exists_mapM_eq_ok_iff : (∃ out, l.mapM f = .ok out) ↔ ∀ a ∈ l, ∃ b, f a = .ok b := by
  induction l with
  | nil => simp
  | cons a l ih =>
    rw [List.forall_mem_cons, ← ih]
    cases h : f a with
    | error e => simp [mapM_cons_of_error h]
    | ok b => simp [mapM_cons_of_ok h, exists_map_eq_ok_iff]

/-- The results of a list of computations come in its order. -/
theorem mapM_eq_ok_iff {out : List β} :
    l.mapM f = .ok out ↔ List.Forall₂ (fun a b => f a = .ok b) l out := by
  induction l generalizing out with
  | nil => simp [eq_comm]
  | cons a l ih =>
    rw [List.forall₂_cons_left_iff]
    cases ha : f a with
    | error e => simp [mapM_cons_of_error ha]
    | ok b =>
      rw [mapM_cons_of_ok ha, map_eq_ok_iff]
      simp [ih, eq_comm]

/-- What computations of lists find is what one of them finds. -/
theorem mem_flatten_of_mapM_eq_ok_iff {f : α → Except ε (List β)} {out : List (List β)}
    (h : l.mapM f = .ok out) {b : β} :
    b ∈ out.flatten ↔ ∃ a ∈ l, ∃ found, f a = .ok found ∧ b ∈ found := by
  rw [mapM_eq_ok_iff] at h
  induction h with
  | nil => simp
  | cons ha _ ih => simp [ha, ih]

/-- A list of computations fails with the first that fails. -/
theorem mapM_eq_error_iff {e : ε} :
    l.mapM f = .error e ↔ ∃ before a after, l = before ++ a :: after ∧
      (∀ x ∈ before, ∃ b, f x = .ok b) ∧ f a = .error e := by
  induction l with
  | nil => simp
  | cons a l ih =>
    constructor
    · intro h
      cases ha : f a with
      | error e' =>
        rw [mapM_cons_of_error ha, Except.error.injEq] at h
        exact ⟨[], a, l, rfl, by simp, h ▸ ha⟩
      | ok b =>
        rw [mapM_cons_of_ok ha, map_eq_error_iff, ih] at h
        obtain ⟨before, x, after, rfl, hbefore, hx⟩ := h
        exact ⟨a :: before, x, after, rfl, List.forall_mem_cons.mpr ⟨⟨b, ha⟩, hbefore⟩, hx⟩
    · rintro ⟨before, x, after, hl, hbefore, hx⟩
      cases before with
      | nil =>
        obtain ⟨rfl, rfl⟩ := List.cons.inj hl
        exact mapM_cons_of_error hx
      | cons first before =>
        obtain ⟨rfl, rfl⟩ := List.cons.inj hl
        obtain ⟨⟨b, ha⟩, hbefore⟩ := List.forall_mem_cons.mp hbefore
        rw [mapM_cons_of_ok ha, map_eq_error_iff, ih]
        exact ⟨before, x, after, rfl, hbefore, hx⟩

/-- A list of computations fails only where one of them does. -/
theorem exists_of_mapM_eq_error {e : ε} (h : l.mapM f = .error e) : ∃ a ∈ l, f a = .error e := by
  obtain ⟨before, a, after, rfl, -, ha⟩ := mapM_eq_error_iff.mp h
  exact ⟨a, by simp, ha⟩

/-- Computations of lists that are made one after the other find nothing if none of them does. -/
theorem mapM_flatten_eq_ok_nil_iff {f : α → Except ε (List β)} :
    (l.mapM f).map List.flatten = .ok [] ↔ ∀ a ∈ l, f a = .ok [] := by
  induction l with
  | nil => simp
  | cons a l ih =>
    rw [List.forall_mem_cons, ← ih]
    cases ha : f a with
    | error e => simp [mapM_cons_of_error ha]
    | ok found =>
      rw [mapM_cons_of_ok ha]
      cases l.mapM f <;> simp

end MapM

end CodeStyle.Except

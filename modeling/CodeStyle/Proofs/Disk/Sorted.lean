import CodeStyle.Disk.Basic

/-!
# Folders in order

A disk is sorted if the entries of all its folders stand in the order of their names, each name
once. An entry is then the only one of its name, and what a path leads to is sorted as well.
-/
namespace CodeStyle

namespace Entry

mutual

/-- Whether the folders at and below an entry are in order. -/
def isSorted : Entry → Bool
  | folder _ entries => areSorted entries
  | closed _ entries => areSorted entries
  | _ => true

/-- Whether entries stand in the order of their names and the folders among them are in order. -/
def areSorted : List Entry → Bool
  | [] => true
  | e :: rest => rest.all (e.name < ·.name) && isSorted e && areSorted rest

end

theorem areSorted_cons_iff {e : Entry} {rest : List Entry} :
    areSorted (e :: rest) = true ↔
      (∀ f ∈ rest, e.name < f.name) ∧ e.isSorted = true ∧ areSorted rest = true := by
  simp [areSorted, and_assoc]

/-- An entry is sorted if its entries are. -/
theorem isSorted_eq_areSorted_entries (e : Entry) : e.isSorted = areSorted e.entries := by
  cases e <;> rfl

theorem isSorted_of_mem {e : Entry} {entries : List Entry} (h : areSorted entries = true)
    (he : e ∈ entries) : e.isSorted = true := by
  induction entries with
  | nil => contradiction
  | cons first rest ih =>
    obtain ⟨-, hfirst, hrest⟩ := areSorted_cons_iff.mp h
    rcases List.mem_cons.mp he with rfl | he
    · exact hfirst
    · exact ih hrest he

/-- Folders that are found among sorted entries are sorted. -/
theorem areSorted_of_find?_eq_some {e : Entry} {entries : List Entry} {p : Entry → Bool}
    (h : areSorted entries = true) (he : entries.find? p = some e) : areSorted e.entries = true :=
  e.isSorted_eq_areSorted_entries.symm.trans (isSorted_of_mem h (List.mem_of_find?_eq_some he))

/-- An entry of a sorted folder is the one that is found under its name. -/
theorem find?_name_eq_some_iff {e : Entry} {entries : List Entry} {name : String}
    (h : areSorted entries = true) :
    entries.find? (·.name == name) = some e ↔ e ∈ entries ∧ e.name = name := by
  induction entries with
  | nil => simp
  | cons first rest ih =>
    obtain ⟨hless, -, hrest⟩ := areSorted_cons_iff.mp h
    by_cases hfirst : first.name = name
    · have hother : ¬(e ∈ rest ∧ e.name = name) := by
        rintro ⟨he, hname⟩
        have hlt : name < name := by simpa only [hfirst, hname] using hless e he
        exact String.lt_irrefl name hlt
      rw [List.find?_cons_of_pos (by simp [hfirst])]
      constructor
      · rintro ⟨⟩
        exact ⟨List.mem_cons_self, hfirst⟩
      · rintro ⟨he, hname⟩
        rcases List.mem_cons.mp he with rfl | he
        · rfl
        · exact absurd ⟨he, hname⟩ hother
    · rw [List.find?_cons_of_neg (by simp [hfirst]), ih hrest, List.mem_cons]
      constructor
      · rintro ⟨he, hname⟩
        exact ⟨.inr he, hname⟩
      · rintro ⟨rfl | he, hname⟩
        · exact absurd hname hfirst
        · exact ⟨he, hname⟩

/-- Folders below sorted ones are sorted. -/
theorem areSorted_of_below?_eq_some {e : Entry} {entries : List Entry} {names : List String}
    (h : areSorted entries = true) (he : below? entries names = some e) :
    areSorted e.entries = true := by
  induction names generalizing entries with
  | nil =>
    obtain rfl := Option.some.inj he
    exact h
  | cons name rest ih =>
    rw [below?] at he
    cases hfind : entries.find? (·.name == name) with
    | none => simp [hfind] at he
    | some found =>
      have hfound : areSorted found.entries = true := areSorted_of_find?_eq_some h hfind
      cases rest with
      | nil =>
        obtain rfl : found = e := by simpa [hfind] using he
        exact hfound
      | cons second rest => exact ih hfound (by simpa [hfind] using he)

end Entry

namespace Disk

/-- Whether all folders of a disk are in order. -/
def IsSorted (d : Disk) : Prop := Entry.areSorted d.entries = true

instance (d : Disk) : Decidable d.IsSorted := inferInstanceAs (Decidable (_ = true))

namespace IsSorted

variable {d : Disk}

/-- What a path leads to on a sorted disk is sorted. -/
theorem areSorted_of_find_eq_ok (h : d.IsSorted) {lastLink : Bool} {path : String} {e : Entry}
    (he : d.find lastLink path = .ok e) : Entry.areSorted e.entries = true := by
  unfold find at he
  split at he
  · split at he
    · rename_i hbelow
      obtain rfl := Except.ok.inj he
      exact Entry.areSorted_of_below?_eq_some h hbelow
    · contradiction
  · contradiction

end IsSorted

end Disk

end CodeStyle

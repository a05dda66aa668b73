import CodeStyle.Proofs.Except
import CodeStyle.Proofs.SyntaxTree.Declarator
import CodeStyle.Rule.Criterion

/-!
# What a rule finds at a place

The violations at a node or in a line, said as a whole: where they are, what they say and when there
are any.
-/
namespace CodeStyle

namespace NameSubject

variable {subject : NameSubject} {p : NamePattern} {s : Source} {t : SyntaxTree} {v : Violation}

/-- Every name that a pattern does not accept is a violation. -/
theorem mem_visit_iff : v ∈ subject.visit p s t ↔ ∃ u ∈ subject.uses t,
    p.accepts (s.stringOf u.name) = false ∧
      v = ⟨s.path, s.line u.place, subject.message (s.stringOf u.name) p.text⟩ := by
  simp only [visit, List.mem_filterMap, judge]
  refine exists_congr fun u => and_congr_right fun _ => ?_
  cases p.accepts (s.stringOf u.name) <;> simp [eq_comm]

/-- The names that a node gives stand in it. -/
theorem isNodeOf_of_mem_names {n : SyntaxTree} (h : n ∈ subject.names t) :
    SyntaxTree.IsNodeOf t n := by
  have hchild {c : SyntaxTree} (hc : c ∈ t.children) : SyntaxTree.IsNodeOf t c := .child .root hc
  unfold names at h
  split at h
  · exact hchild (SyntaxTree.mem_children_of_field? (Option.mem_toList.mp h))
  · split at h
    · exact SyntaxTree.isNodeOf_of_mem_declaredNames h
    · contradiction
  · exact SyntaxTree.isNodeOf_of_mem_declaredNames h
  · exact hchild (SyntaxTree.mem_children_of_field? (Option.mem_toList.mp h))
  · exact hchild (SyntaxTree.mem_children_of_firstChild? (Option.mem_toList.mp h))
  · exact SyntaxTree.isNodeOf_of_mem_declaredNames h
  · exact SyntaxTree.isNodeOf_of_functionName? (Option.mem_toList.mp h)
  · obtain ⟨d, hd, hname⟩ := List.mem_filterMap.mp h
    have hd : d ∈ t.fields "declarator" := by
      split at hd
      · exact hd
      · exact List.mem_of_mem_take hd
    exact (hchild (SyntaxTree.mem_children_of_mem_fields hd)).trans
      (SyntaxTree.isNodeOf_of_declaredVariable? hname)

/-- A name is reported in the node that gives it. -/
theorem isNodeOf_of_mem_uses {u : NameUse} (h : u ∈ subject.uses t) :
    SyntaxTree.IsNodeOf t u.place := by
  unfold uses at h
  split at h
  · obtain ⟨n, hn, rfl⟩ := List.mem_map.mp h
    cases subject.reportsName with
    | true => exact isNodeOf_of_mem_names hn
    | false => exact .root
  · contradiction

end NameSubject

/-- Every count above the maximum is a violation. -/
theorem NodeQuantity.mem_visit_iff {q : NodeQuantity} {max : Nat} {s : Source} {t : SyntaxTree}
    {v : Violation} : v ∈ q.visit max s t ↔ q.kinds.contains t.kind = true ∧
    ∃ n, q.count? s t = some n ∧ max < n ∧
      v = ⟨s.path, s.line t, q.message (q.nameOf s t) n max⟩ := by
  unfold visit
  cases q.kinds.contains t.kind with
  | false => simp
  | true =>
    cases hcount : q.count? s t with
    | none => simp
    | some n =>
      by_cases hle : n ≤ max
      · simp [hle, Nat.not_lt.mpr hle]
      · simp [hle, Nat.lt_of_not_le hle]

/-- Every node that is not laid out well is a violation. -/
theorem Layout.mem_visit_iff {l : Layout} {language : Language} {quote : Quote} {s : Source}
    {t : SyntaxTree} {vs : List Violation} {v : Violation}
    (h : l.visit language quote s t = .ok vs) :
    v ∈ vs ↔ (l.kinds language).contains t.kind = true ∧
      l.isWellLaid language quote s t = .ok false ∧ v = ⟨s.path, s.line t, l.message⟩ := by
  unfold visit at h
  split at h
  · rename_i hkind
    obtain ⟨ok, hok, rfl⟩ := Except.map_eq_ok_iff.mp h
    simp only [hkind, hok, true_and]
    cases ok <;> simp
  · rename_i hkind
    obtain rfl := Except.ok.inj h
    exact ⟨fun hv => absurd hv List.not_mem_nil, fun hv => absurd hv.1 hkind⟩

section Lines

/-- An element of a list is the first or stands behind it. -/
theorem exists_getElem?_cons_iff {α : Type} {a : α} {as : List α} {P : Nat → α → Prop} :
    (∃ i x, (a :: as)[i]? = some x ∧ P i x) ↔ P 0 a ∨ ∃ i x, as[i]? = some x ∧ P (i + 1) x := by
  constructor
  · rintro ⟨i, x, hx, hP⟩
    cases i with
    | zero =>
      obtain rfl : a = x := Option.some.inj hx
      exact .inl hP
    | succ i => exact .inr ⟨i, x, hx, hP⟩
  · rintro (hP | ⟨i, x, hx, hP⟩)
    · exact ⟨0, a, rfl, hP⟩
    · exact ⟨i + 1, x, hx, hP⟩

variable {path : String} {number : Nat} {lines : List (List Char)} {v : Violation}

/-- Every line with more characters than the maximum is a violation. -/
theorem TextQuantity.mem_longLines_iff {max : Nat} :
    v ∈ longLines path max number lines ↔ ∃ i line, lines[i]? = some line ∧ max < line.length ∧
      v = ⟨path, number + i, lineTooLong path (number + i) line.length max⟩ := by
  induction lines generalizing number with
  | nil => simp [longLines]
  | cons line lines ih =>
    have hrest := @ih (number + 1)
    simp only [Nat.add_right_comm number 1, Nat.add_assoc] at hrest
    rw [exists_getElem?_cons_iff, longLines]
    simp only [← hrest]
    by_cases hle : line.length ≤ max
    · simp [hle, Nat.not_lt.mpr hle]
    · simp [hle, Nat.lt_of_not_le hle]

/-- Every line that starts where it may not is a violation. -/
theorem Indentation.mem_misaligned_iff {width : Nat} :
    v ∈ misaligned path width number lines ↔ ∃ i line, lines[i]? = some line ∧
      isAligned width line = false ∧ v = ⟨path, number + i, message path width (number + i)⟩ := by
  induction lines generalizing number with
  | nil => simp [misaligned]
  | cons line lines ih =>
    have hrest := @ih (number + 1)
    simp only [Nat.add_right_comm number 1, Nat.add_assoc] at hrest
    rw [exists_getElem?_cons_iff, misaligned]
    simp only [← hrest]
    cases isAligned width line <;> simp

end Lines

end CodeStyle

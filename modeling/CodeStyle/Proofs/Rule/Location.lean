import CodeStyle.Proofs.Rule.Check
import CodeStyle.Proofs.Rule.Visit

/-!
# Where a rule reports

A rule reports at nodes, in lines, or on a file as a whole. A node that covers some text starts in a
line of it: the last row of a text that ends with a line feed is no line, but nothing starts there
that is not empty.
-/
namespace CodeStyle

namespace Source

variable {s : Source} {t : SyntaxTree}

/-- A node of some length starts in a line of the source. -/
theorem line_le_length_lines (hfits : s.tree.fits s.text = true) (ht : s.tree.IsNodeOf t)
    (hlength : t.info.start < t.info.stop) : 1 ≤ s.line t ∧ s.line t ≤ s.lines.length := by
  obtain ⟨hstart, hstop, -⟩ := SyntaxTree.fits_iff.mp (ht.fits hfits)
  have hwithin : t.info.start < Text.byteLength s.text := by
    have hend := Text.le_byteLength_of_isBoundary hstop
    omega
  have hrow := (Text.row_lt_length_lines_iff hstart).mpr (.inl hwithin)
  have hline : s.line t = (Text.placeAt s.text t.info.start).row + 1 := rfl
  rw [hline]
  exact ⟨Nat.le_add_left 1 _, hrow⟩

end Source

namespace Criterion

/-- The nodes at which a criterion may report something found at a node. -/
def places (language : Language) (t : SyntaxTree) : Criterion → List SyntaxTree
  | naming subject _ _ => (subject.uses t).map NameUse.place
  | counting quantity _ _ => if quantity.kinds.contains t.kind then [t] else []
  | measuring _ _ _ => []
  | indenting _ _ => []
  | laying layout => if (layout.kinds language).contains t.kind then [t] else []

/-- Whether a criterion is about the number of lines, which concerns a file as a whole. -/
def countsLines : Criterion → Bool
  | measuring quantity _ _ => quantity == .lines
  | _ => false

theorem places_withoutValue (c : Criterion) (language : Language) (t : SyntaxTree) :
    c.withoutValue.places language t = c.places language t := by
  cases c <;> rfl

theorem countsLines_withoutValue (c : Criterion) : c.withoutValue.countsLines = c.countsLines := by
  cases c <;> rfl

/-- Whether a source has a tree of its text in which no node is empty at which a criterion may
report. -/
structure HasPlaces (c : Criterion) (language : Language) (s : Source) : Prop where
  fits : s.tree.fits s.text = true
  length_pos : ∀ t ∈ s.tree.preorder, ∀ u ∈ c.places language t, u.info.start < u.info.stop

theorem HasPlaces.of_withoutValue_eq {c d : Criterion} {language : Language} {s : Source}
    (h : c.HasPlaces language s) (hvalue : c.withoutValue = d.withoutValue) :
    d.HasPlaces language s where
  fits := h.fits
  length_pos t ht := by
    rw [← places_withoutValue, ← hvalue, places_withoutValue]
    exact h.length_pos t ht

variable {c : Criterion} {language : Language} {check : Check} {disk : Disk} {path : String}
  {s : Source} {t u : SyntaxTree} {vs : List Violation} {v : Violation}

theorem mem_places_counting_iff {quantity : NodeQuantity} {key : String} {max : Nat} :
    u ∈ (counting quantity key max).places language t ↔
      quantity.kinds.contains t.kind = true ∧ u = t := by
  rw [places]
  split <;> simp_all

theorem mem_places_laying_iff {layout : Layout} :
    u ∈ (laying layout).places language t ↔
      (layout.kinds language).contains t.kind = true ∧ u = t := by
  rw [places]
  split <;> simp_all

/-- What a criterion reports at stands in the node that is visited. -/
theorem isNodeOf_of_mem_places (h : u ∈ c.places language t) : t.IsNodeOf u := by
  cases c with
  | naming subject key pattern =>
    obtain ⟨use, huse, rfl⟩ := List.mem_map.mp h
    exact NameSubject.isNodeOf_of_mem_uses huse
  | counting quantity key max =>
    obtain ⟨-, rfl⟩ := mem_places_counting_iff.mp h
    exact .root
  | laying layout =>
    obtain ⟨-, rfl⟩ := mem_places_laying_iff.mp h
    exact .root
  | _ => contradiction

/-- The places of a source are in its lines. -/
theorem HasPlaces.line_le (h : c.HasPlaces language s) (ht : t ∈ s.tree.preorder)
    (hu : u ∈ c.places language t) : 1 ≤ s.line u ∧ s.line u ≤ s.lines.length := by
  have hnode := (SyntaxTree.isNodeOf_of_mem_preorder ht).trans (isNodeOf_of_mem_places hu)
  exact Source.line_le_length_lines h.fits hnode (h.length_pos t ht u hu)

/-- What a criterion finds in a source that parses is on the file as a whole, in a line of the text
or at a place. -/
theorem cases_of_mem_check (hcheck : c.check language = .ok check) (hs : disk.source path = .ok s)
    (hparses : s.parses = true) (hvs : check disk path = .ok vs) (hv : v ∈ vs) :
    v.file = path ∧
      ((c.countsLines = true ∧ v.line = 0) ∨
        (c.countsLines = false ∧ ∃ i line, s.lines[i]? = some line ∧ v.line = 1 + i) ∨
        (c.countsLines = false ∧ ∃ t ∈ s.tree.preorder, ∃ u ∈ c.places language t,
          v.line = s.line u)) := by
  obtain rfl : s.path = path := (Disk.find_of_source_eq_ok hs).1
  cases c with
  | naming subject key pattern =>
    obtain ⟨p, hp, rfl⟩ := Except.map_eq_ok_iff.mp hcheck
    rw [Check.ofSource_eq hs hparses] at hvs
    obtain ⟨t, ht, more, hmore, hv⟩ := (SyntaxTree.mem_of_walk_eq_ok_iff hvs v).mp hv
    rw [← Except.ok.inj hmore] at hv
    obtain ⟨use, huse, -, rfl⟩ := NameSubject.mem_visit_iff.mp hv
    exact ⟨rfl, .inr (.inr ⟨rfl, t, ht, use.place, List.mem_map_of_mem huse, rfl⟩)⟩
  | counting quantity key max =>
    rw [← Except.ok.inj hcheck, Check.ofSource_eq hs hparses] at hvs
    obtain ⟨t, ht, more, hmore, hv⟩ := (SyntaxTree.mem_of_walk_eq_ok_iff hvs v).mp hv
    rw [← Except.ok.inj hmore] at hv
    obtain ⟨hkind, n, -, -, rfl⟩ := NodeQuantity.mem_visit_iff.mp hv
    exact ⟨rfl, .inr (.inr ⟨rfl, t, ht, t, mem_places_counting_iff.mpr ⟨hkind, rfl⟩, rfl⟩)⟩
  | measuring quantity key max =>
    rw [← Except.ok.inj hcheck, Check.ofSource_eq hs hparses] at hvs
    obtain rfl := Except.ok.inj hvs
    cases quantity with
    | lines =>
      simp only [TextQuantity.inspect] at hv
      split at hv
      · contradiction
      · obtain rfl := List.mem_singleton.mp hv
        exact ⟨rfl, .inl ⟨rfl, rfl⟩⟩
    | lineLength =>
      obtain ⟨i, line, hline, -, rfl⟩ := TextQuantity.mem_longLines_iff.mp hv
      exact ⟨rfl, .inr (.inl ⟨rfl, i, line, hline, rfl⟩)⟩
  | indenting key width =>
    rw [Criterion.check] at hcheck
    split at hcheck
    · contradiction
    · rw [← Except.ok.inj hcheck, Check.ofSource_eq hs hparses] at hvs
      obtain rfl := Except.ok.inj hvs
      obtain ⟨i, line, hline, -, rfl⟩ := Indentation.mem_misaligned_iff.mp hv
      exact ⟨rfl, .inr (.inl ⟨rfl, i, line, hline, rfl⟩)⟩
  | laying layout =>
    rw [check_laying_eq hcheck hs hparses] at hvs
    obtain ⟨t, ht, more, hmore, hv⟩ := (SyntaxTree.mem_of_walk_eq_ok_iff hvs v).mp hv
    obtain ⟨hkind, -, rfl⟩ := (Layout.mem_visit_iff hmore).mp hv
    exact ⟨rfl, .inr (.inr ⟨rfl, t, ht, t, mem_places_laying_iff.mpr ⟨hkind, rfl⟩, rfl⟩)⟩

/-- What a criterion finds in a source that parses is in a line of it, or on the file as a whole if
the criterion is about the number of lines. -/
theorem line_of_mem_check (hcheck : c.check language = .ok check) (hs : disk.source path = .ok s)
    (hparses : s.parses = true) (hplaces : c.HasPlaces language s)
    (hvs : check disk path = .ok vs) (hv : v ∈ vs) :
    v.file = path ∧ v.line ≤ s.lines.length ∧ (v.line = 0 ↔ c.countsLines = true) := by
  obtain ⟨hfile, ⟨hcounts, hline⟩ | ⟨hcounts, i, line, hmem, hline⟩ |
    ⟨hcounts, t, ht, u, hu, hline⟩⟩ := cases_of_mem_check hcheck hs hparses hvs hv
  · exact ⟨hfile, by omega, by simp [hline, hcounts]⟩
  · have hlast : i < s.lines.length := (List.getElem?_eq_some_iff.mp hmem).1
    exact ⟨hfile, by omega, by simp [hline, hcounts]⟩
  · obtain ⟨hfirst, hlast⟩ := hplaces.line_le ht hu
    refine ⟨hfile, by omega, ?_⟩
    rw [hcounts]
    exact ⟨fun hzero => by omega, nofun⟩

end Criterion

end CodeStyle

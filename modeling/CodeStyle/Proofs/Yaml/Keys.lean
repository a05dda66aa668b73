import CodeStyle.Yaml.Document
import Mathlib.Data.List.Basic
import Mathlib.Data.List.Pairwise

/-!
# Keys of mappings

The keys of a mapping that is read are different from each other, so that the value of a text among
them does not depend on their order.
-/
namespace CodeStyle.Yaml

/-- Whether all entries of a mapping have different keys. -/
def HasDistinctKeys (entries : List (Yaml × Yaml)) : Prop :=
  entries.Pairwise fun a b => a.1.same b.1 = false

namespace Node

theorem hasDistinctKeys_addEntry {entries entries' : List (Yaml × Yaml)} {key value : Yaml}
    (h : addEntry? entries key value = some entries') (hentries : HasDistinctKeys entries) :
    HasDistinctKeys entries' := by
  unfold addEntry? at h
  split at h
  · contradiction
  · rename_i hnew
    obtain rfl : entries ++ [(key, value)] = entries' := Option.some.inj h
    have hdifferent : ∀ e ∈ entries, e.1.same key = false := by
      simpa only [List.any_eq_true, not_exists, not_and, Bool.not_eq_true] using hnew
    exact List.pairwise_append.mpr ⟨hentries, List.pairwise_singleton _ _,
      fun e he e' he' => List.mem_singleton.mp he' ▸ hdifferent e he⟩

/-- Entries are only added under new keys. -/
theorem hasDistinctKeys_of_entriesFrom {read : Node Nat → Counting Yaml}
    {nodes : List (Node Nat × Node Nat)} {known entries : List (Yaml × Yaml)} {n n' : Nat}
    (h : (entriesFrom read known nodes).run n = some (entries, n'))
    (hknown : HasDistinctKeys known) : HasDistinctKeys entries := by
  induction nodes generalizing known n with
  | nil =>
    obtain ⟨rfl, -⟩ : known = entries ∧ n = n' := by simpa [entriesFrom] using h
    exact hknown
  | cons node nodes ih =>
    obtain ⟨k, v⟩ := node
    simp only [entriesFrom, StateT.run_bind, Option.bind_eq_bind, Option.bind_eq_some_iff] at h
    obtain ⟨⟨key, n₁⟩, -, ⟨value, n₂⟩, -, h⟩ := h
    cases hadd : addEntry? known key value with
    | none => simp [hadd] at h
    | some known' =>
      rw [hadd] at h
      exact ih h (hasDistinctKeys_addEntry hadd hknown)

/-- A tag that makes a difference hides a mapping. -/
theorem eq_mapping_of_tagWith {tag : Option String} {value : Yaml} {entries : List (Yaml × Yaml)}
    (h : tagWith tag value = .mapping entries) : value = .mapping entries := by
  unfold tagWith at h
  split at h
  · contradiction
  · contradiction
  · exact h

theorem ofPlain?_ne_mapping (s : String) (entries : List (Yaml × Yaml)) :
    Scalar.ofPlain? s ≠ some (.mapping entries) := by
  unfold Scalar.ofPlain?
  repeat' split
  all_goals simp

theorem ofTagged?_ne_mapping (tag s : String) (entries : List (Yaml × Yaml)) :
    Scalar.ofTagged? tag s ≠ some (.mapping entries) := by
  unfold Scalar.ofTagged?
  repeat' split
  all_goals simp

/-- A scalar is no mapping. -/
theorem scalarValue?_ne_mapping (tag : Option String) (text : String) (isPlain : Bool)
    (entries : List (Yaml × Yaml)) : scalarValue? tag text isPlain ≠ some (.mapping entries) := by
  have huntagged : (if isPlain then Scalar.ofPlain? text else some (.string text)) ≠
      some (.mapping entries) := by
    split
    · exact ofPlain?_ne_mapping text entries
    · simp
  intro h
  cases tag with
  | none => exact huntagged h
  | some t =>
    unfold scalarValue? at h
    simp only at h
    split at h
    · obtain ⟨value, hvalue, htag⟩ := Option.map_eq_some_iff.mp h
      rw [eq_mapping_of_tagWith htag] at hvalue
      exact huntagged hvalue
    · exact ofTagged?_ne_mapping t text entries h

theorem hasDistinctKeys_of_value {ts : Targets} {depth n n' : Nat} {node : Node Nat}
    {entries : List (Yaml × Yaml)}
    (h : (value ts depth node).run n = some (.mapping entries, n')) : HasDistinctKeys entries := by
  rw [value] at h
  simp only [StateT.run_bind, Option.bind_eq_bind, Option.bind_eq_some_iff] at h
  obtain ⟨⟨node', n₁⟩, -, h⟩ := h
  cases node' with
  | reference m => simp at h
  | scalar p text isPlain =>
    have hscalar : scalarValue? p.tag text isPlain = some (.mapping entries) ∧ n₁ = n' := by
      simpa [Option.bind_eq_some_iff] using h
    exact absurd hscalar.1 (scalarValue?_ne_mapping _ _ _ _)
  | sequence p items =>
    cases depth with
    | zero => simp at h
    | succ depth =>
      obtain ⟨values, -, htag⟩ : ∃ values,
          (items.mapM (value ts depth)).run n₁ = some (values, n') ∧
            tagWith p.tag (.sequence values) = .mapping entries := by simpa using h
      exact absurd (eq_mapping_of_tagWith htag) (by simp)
  | mapping p nodes =>
    cases depth with
    | zero => simp at h
    | succ depth =>
      obtain ⟨known, hknown, htag⟩ : ∃ known,
          (entriesFrom (value ts depth) [] nodes).run n₁ = some (known, n') ∧
            tagWith p.tag (.mapping known) = .mapping entries := by simpa using h
      obtain rfl : known = entries := Yaml.mapping.inj (eq_mapping_of_tagWith htag)
      exact hasDistinctKeys_of_entriesFrom hknown List.Pairwise.nil

end Node

/-- A document that is a mapping has different keys. -/
theorem hasDistinctKeys_of_read? {text : List Char} {entries : List (Yaml × Yaml)}
    (h : read? text = some (.mapping entries)) : HasDistinctKeys entries := by
  unfold read? at h
  split at h
  · contradiction
  · simp at h
  · unfold Node.rootValue? at h
    split at h
    · contradiction
    · obtain ⟨⟨value, n⟩, hvalue, rfl⟩ := Option.map_eq_some_iff.mp h
      exact Node.hasDistinctKeys_of_value hvalue

/-- Two entries under the same text are one. -/
theorem HasDistinctKeys.eq_of_string {entries : List (Yaml × Yaml)} (h : HasDistinctKeys entries)
    {key : String} {e e' : Yaml × Yaml} (he : e ∈ entries) (he' : e' ∈ entries)
    (hkey : e.1 = .string key) (hkey' : e'.1 = .string key) : e = e' := by
  by_contra hne
  have : Std.Symm fun a b : Yaml × Yaml => ¬ (a.1 = .string key ∧ b.1 = .string key) :=
    ⟨fun a b hab hba => hab hba.symm⟩
  have hone : entries.Pairwise fun a b => ¬ (a.1 = .string key ∧ b.1 = .string key) := by
    refine h.imp fun hdifferent hboth => ?_
    rw [hboth.1, hboth.2, same, beq_self_eq_true] at hdifferent
    contradiction
  exact hone.forall he he' hne ⟨hkey, hkey'⟩

end CodeStyle.Yaml

import CodeStyle.Yaml.Document
import Mathlib.Data.List.Basic

/-!
# Whole numbers of documents

A document that holds a whole number of more than 64 bits is refused or holds it as something else,
so that the whole numbers of a value that is read, however deep in it, fit a word with or without a
sign.
-/
namespace CodeStyle.Yaml

/-- Whether a whole number has at most 64 bits, with a sign if it is negative. -/
def IsWord (n : Int) : Prop := -0x8000000000000000 ≤ n ∧ n < 0x10000000000000000

/-- Whether the whole numbers in a value, those of its keys included, are words. -/
inductive HasWords : Yaml → Prop
  | null : HasWords .null
  | bool (b : Bool) : HasWords (.bool b)
  | int {n : Int} (h : IsWord n) : HasWords (.int n)
  | float (x : Binary64) : HasWords (.float x)
  | string (s : String) : HasWords (.string s)
  | sequence {items : List Yaml} (h : ∀ v ∈ items, HasWords v) : HasWords (.sequence items)
  | mapping {entries : List (Yaml × Yaml)} (hkeys : ∀ e ∈ entries, HasWords e.1)
      (hvalues : ∀ e ∈ entries, HasWords e.2) : HasWords (.mapping entries)
  | tagged {tag : String} {v : Yaml} (h : HasWords v) : HasWords (.tagged tag v)

/-- Without its tags a value has the same whole numbers. -/
theorem HasWords.untagged {v : Yaml} (h : HasWords v) : HasWords v.untagged := by
  induction h with
  | tagged _ ih => exact ih
  | int hn => exact .int hn
  | sequence h => exact .sequence h
  | mapping hkeys hvalues => exact .mapping hkeys hvalues
  | null => exact .null
  | bool b => exact .bool b
  | float x => exact .float x
  | string s => exact .string s

theorem Scalar.isWord_of_whole {cs : List Char} {n : Int} (h : whole cs = .fits n) : IsWord n := by
  unfold whole at h
  split at h
  · split at h
    · rename_i m _ hm
      obtain rfl := Whole.fits.inj h
      unfold wordBound at hm
      unfold IsWord
      omega
    · split at h <;> contradiction
  · split at h
    · rename_i m _ hm
      obtain rfl := Whole.fits.inj h
      unfold wordBound at hm
      unfold IsWord
      omega
    · split at h <;> contradiction
  · contradiction

theorem Scalar.hasWords_of_ofPlain? {s : String} {v : Yaml} (h : ofPlain? s = some v) :
    HasWords v := by
  unfold ofPlain? at h
  split at h
  · obtain rfl := Option.some.inj h
    exact .null
  · split at h
    · obtain rfl := Option.some.inj h
      exact .bool _
    · split at h
      · rename_i n hn
        obtain rfl := Option.some.inj h
        exact .int (isWord_of_whole hn)
      · contradiction
      · split at h
        · obtain rfl := Option.some.inj h
          exact .float _
        · obtain rfl := Option.some.inj h
          exact .string s

theorem Scalar.hasWords_of_ofTagged? {tag s : String} {v : Yaml} (h : ofTagged? tag s = some v) :
    HasWords v := by
  unfold ofTagged? at h
  split at h
  · obtain ⟨b, -, rfl⟩ := Option.map_eq_some_iff.mp h
    exact .bool b
  · split at h
    · split at h
      · rename_i n hn
        obtain rfl := Option.some.inj h
        exact .int (isWord_of_whole hn)
      · contradiction
    · split at h
      · obtain ⟨x, -, rfl⟩ := Option.map_eq_some_iff.mp h
        exact .float x
      · split at h
        · split at h
          · obtain rfl := Option.some.inj h
            exact .null
          · contradiction
        · obtain rfl := Option.some.inj h
          exact .string s

namespace Node

theorem hasWords_tagWith {tag : Option String} {v : Yaml} (h : HasWords v) :
    HasWords (tagWith tag v) := by
  unfold tagWith
  split
  · exact .tagged h
  · exact .tagged h
  · exact h

theorem hasWords_of_scalarValue? {tag : Option String} {text : String} {isPlain : Bool} {v : Yaml}
    (h : scalarValue? tag text isPlain = some v) : HasWords v := by
  have huntagged {v : Yaml} (h : (if isPlain then Scalar.ofPlain? text else some (.string text)) =
      some v) : HasWords v := by
    split at h
    · exact Scalar.hasWords_of_ofPlain? h
    · obtain rfl := Option.some.inj h
      exact .string text
  cases tag with
  | none => exact huntagged h
  | some t =>
    unfold scalarValue? at h
    simp only at h
    split at h
    · obtain ⟨v, hv, rfl⟩ := Option.map_eq_some_iff.mp h
      exact hasWords_tagWith (huntagged hv)
    · exact Scalar.hasWords_of_ofTagged? h

/-- Entries are added with a key and a value that are read. -/
theorem hasWords_of_entriesFrom {read : Node Nat → Counting Yaml}
    (hread : ∀ node n v n', (read node).run n = some (v, n') → HasWords v)
    {nodes : List (Node Nat × Node Nat)} {known entries : List (Yaml × Yaml)} {n n' : Nat}
    (h : (entriesFrom read known nodes).run n = some (entries, n'))
    (hknown : HasWords (.mapping known)) : HasWords (.mapping entries) := by
  induction nodes generalizing known n with
  | nil =>
    obtain ⟨rfl, -⟩ : known = entries ∧ n = n' := by simpa [entriesFrom] using h
    exact hknown
  | cons node nodes ih =>
    obtain ⟨k, v⟩ := node
    simp only [entriesFrom, StateT.run_bind, Option.bind_eq_bind, Option.bind_eq_some_iff] at h
    obtain ⟨⟨key, n₁⟩, hkey, ⟨value, n₂⟩, hvalue, h⟩ := h
    cases hadd : addEntry? known key value with
    | none => simp [hadd] at h
    | some known' =>
      rw [hadd] at h
      refine ih h ?_
      obtain rfl : known ++ [(key, value)] = known' := by
        unfold addEntry? at hadd
        split at hadd
        · contradiction
        · exact Option.some.inj hadd
      cases hknown with
      | mapping hkeys hvalues =>
        refine .mapping (fun e he => ?_) fun e he => ?_
        · rcases List.mem_append.mp he with he | he
          · exact hkeys e he
          · rw [List.mem_singleton.mp he]
            exact hread _ _ _ _ hkey
        · rcases List.mem_append.mp he with he | he
          · exact hvalues e he
          · rw [List.mem_singleton.mp he]
            exact hread _ _ _ _ hvalue

theorem hasWords_of_mapM {read : Node Nat → Counting Yaml}
    (hread : ∀ node n v n', (read node).run n = some (v, n') → HasWords v)
    {items : List (Node Nat)} {values : List Yaml} {n n' : Nat}
    (h : (items.mapM read).run n = some (values, n')) : ∀ v ∈ values, HasWords v := by
  induction items generalizing values n n' with
  | nil =>
    obtain ⟨rfl, -⟩ : values = [] ∧ n = n' := by simpa [eq_comm] using h
    simp
  | cons item items ih =>
    simp only [List.mapM_cons, StateT.run_bind, Option.bind_eq_bind, Option.bind_eq_some_iff] at h
    obtain ⟨⟨v, n₁⟩, hv, ⟨rest, n₂⟩, hrest, h⟩ := h
    obtain ⟨rfl, -⟩ : values = v :: rest ∧ n₂ = n' := by simpa [eq_comm] using h
    exact List.forall_mem_cons.mpr ⟨hread _ _ _ _ hv, ih hrest⟩

/-- Collections hold what is read one level further down, where the numbers are words already. -/
theorem hasWords_of_value {ts : Targets} {depth n n' : Nat} {node : Node Nat} {v : Yaml}
    (h : (value ts depth node).run n = some (v, n')) : HasWords v := by
  induction depth using Nat.strongRecOn generalizing node n v n' with
  | ind depth ih =>
    rw [value] at h
    simp only [StateT.run_bind, Option.bind_eq_bind, Option.bind_eq_some_iff] at h
    obtain ⟨⟨node', n₁⟩, -, h⟩ := h
    cases node' with
    | reference m => simp at h
    | scalar p text isPlain =>
      have hscalar : scalarValue? p.tag text isPlain = some v ∧ n₁ = n' := by
        simpa [Option.bind_eq_some_iff] using h
      exact hasWords_of_scalarValue? hscalar.1
    | sequence p items =>
      cases depth with
      | zero => simp at h
      | succ depth =>
        obtain ⟨values, hvalues, rfl⟩ : ∃ values,
            (items.mapM (value ts depth)).run n₁ = some (values, n') ∧
              tagWith p.tag (.sequence values) = v := by simpa using h
        have hitems := hasWords_of_mapM (fun _ _ _ _ => ih depth (Nat.lt_succ_self depth)) hvalues
        exact hasWords_tagWith (.sequence hitems)
    | mapping p nodes =>
      cases depth with
      | zero => simp at h
      | succ depth =>
        obtain ⟨entries, hentries, rfl⟩ : ∃ entries,
            (entriesFrom (value ts depth) [] nodes).run n₁ = some (entries, n') ∧
              tagWith p.tag (.mapping entries) = v := by simpa using h
        have hnone : HasWords (.mapping []) := .mapping (by simp) (by simp)
        exact hasWords_tagWith (hasWords_of_entriesFrom
          (fun _ _ _ _ => ih depth (Nat.lt_succ_self depth)) hentries hnone)

end Node

/-- The whole numbers of a document are words. -/
theorem hasWords_of_read? {text : List Char} {v : Yaml} (h : read? text = some v) : HasWords v := by
  unfold read? at h
  split at h
  · contradiction
  · obtain rfl := Option.some.inj h
    exact .null
  · unfold Node.rootValue? at h
    split at h
    · contradiction
    · obtain ⟨⟨value, n⟩, hvalue, rfl⟩ := Option.map_eq_some_iff.mp h
      exact Node.hasWords_of_value hvalue

end CodeStyle.Yaml

import CodeStyle.Config.Document
import CodeStyle.Proofs.Yaml.Keys
import CodeStyle.Proofs.Yaml.Word

/-!
# Blocks of a document

A document that is read has one block at most under a key, whatever the order of its keys.
-/
namespace CodeStyle.Config.Document

variable {d d' : Document} {registry : List RuleEntry} {key : String}

theorem hasDistinctKeys_of_readEntries {text : List Char} {entries : List (Yaml × Yaml)}
    (h : readEntries text = .ok entries) : Yaml.HasDistinctKeys entries := by
  unfold readEntries at h
  split at h
  · contradiction
  · rw [← Except.ok.inj h]
    exact List.Pairwise.nil
  · rename_i read hread
    split at h
    · contradiction
    · rw [← Except.ok.inj h]
      exact Yaml.hasDistinctKeys_of_read? hread
  · contradiction

theorem hasDistinctKeys_of_read {text : List Char} (h : read text = .ok d) :
    Yaml.HasDistinctKeys d.entries := by
  unfold read at h
  split at h
  · rename_i entries hentries
    rw [← Except.ok.inj h]
    exact hasDistinctKeys_of_readEntries hentries
  · contradiction

theorem hasDistinctKeys_of_load {disk : Disk} {path : String} (h : load disk path = .ok d) :
    Yaml.HasDistinctKeys d.entries := by
  unfold load at h
  split at h
  · rw [← Except.ok.inj h]
    exact List.Pairwise.nil
  · split at h
    · rename_i entries hentries
      rw [← Except.ok.inj h]
      exact hasDistinctKeys_of_readEntries hentries
    · contradiction

theorem hasWords_of_readEntries {text : List Char} {entries : List (Yaml × Yaml)}
    (h : readEntries text = .ok entries) : Yaml.HasWords (.mapping entries) := by
  unfold readEntries at h
  split at h
  · contradiction
  · rw [← Except.ok.inj h]
    exact .mapping (by simp) (by simp)
  · rename_i read hread
    split at h
    · contradiction
    · rw [← Except.ok.inj h]
      exact Yaml.hasWords_of_read? hread
  · contradiction

/-- A block of a document holds no whole numbers but those of a document. -/
theorem hasWords_of_get? {text : List Char} {block : Yaml} (h : readEntries text = .ok d.entries)
    (hblock : d.get? key = some block) : block.HasWords := by
  obtain ⟨entry, hentry, rfl⟩ := Option.map_eq_some_iff.mp hblock
  cases hasWords_of_readEntries h with
  | mapping _ hvalues => exact hvalues entry (List.mem_of_find?_eq_some hentry)

/-- Whether an entry has a key. -/
def isUnder (key : String) (e : Yaml × Yaml) : Bool :=
  match e.1 with
  | .string s => s == key
  | _ => false

theorem isUnder_eq_true_iff {e : Yaml × Yaml} : isUnder key e = true ↔ e.1 = .string key := by
  unfold isUnder
  cases e.1 <;> simp

theorem get?_eq_find? : d.get? key = (d.entries.find? (isUnder key)).map (·.2) := rfl

/-- The block with a key is the value of the entry with that key. -/
theorem get?_eq_some_iff (h : Yaml.HasDistinctKeys d.entries) {block : Yaml} :
    d.get? key = some block ↔ (.string key, block) ∈ d.entries := by
  rw [get?_eq_find?, Option.map_eq_some_iff]
  constructor
  · rintro ⟨⟨k, value⟩, hentry, rfl⟩
    obtain rfl : k = .string key := isUnder_eq_true_iff.mp (List.find?_some hentry)
    exact List.mem_of_find?_eq_some hentry
  · intro hmem
    obtain ⟨e, he⟩ := Option.isSome_iff_exists.mp
      (List.find?_isSome.mpr ⟨_, hmem, isUnder_eq_true_iff.mpr rfl⟩)
    have hkey := isUnder_eq_true_iff.mp (List.find?_some he)
    exact ⟨e, he, by rw [h.eq_of_string (List.mem_of_find?_eq_some he) hmem hkey rfl]⟩

/-- The entries whose keys are those of rules of a registry. -/
def usedEntries (d : Document) (registry : List RuleEntry) : List (Yaml × Yaml) :=
  d.entries.filter fun e => !(d.unusedKeys registry).any fun key => keyText? e.1 == some key

theorem mem_usedEntries_iff {e : RuleEntry} (he : e ∈ registry) {block : Yaml} :
    (.string e.key, block) ∈ d.usedEntries registry ↔ (.string e.key, block) ∈ d.entries := by
  have hused : ∀ key ∈ d.unusedKeys registry, key ≠ e.key := by
    intro key hkey heq
    have hnone := (List.mem_filter.mp hkey).2
    rw [heq, Bool.not_eq_true', ← Bool.not_eq_true, List.any_eq_true] at hnone
    exact hnone ⟨e, he, beq_self_eq_true _⟩
  rw [usedEntries, List.mem_filter, and_iff_left_iff_imp]
  intro _
  rw [Bool.not_eq_true', ← Bool.not_eq_true, List.any_eq_true]
  rintro ⟨key, hkey, htext⟩
  exact hused key hkey (Option.some.inj (eq_of_beq htext)).symm

/-- Documents that agree on the entries with keys of rules have the same blocks for the rules. -/
theorem get?_eq_of_perm (h : Yaml.HasDistinctKeys d.entries) (h' : Yaml.HasDistinctKeys d'.entries)
    (hperm : (d.usedEntries registry).Perm (d'.usedEntries registry)) {e : RuleEntry}
    (he : e ∈ registry) : d.get? e.key = d'.get? e.key := by
  ext block
  rw [get?_eq_some_iff h, get?_eq_some_iff h', ← mem_usedEntries_iff he, hperm.mem_iff,
    mem_usedEntries_iff he]

end CodeStyle.Config.Document

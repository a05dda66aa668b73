import CodeStyle.Proofs.Config.RuleSet
import CodeStyle.Proofs.Rule.Settings

/-!
# Switching rules off

A document switches the rules with a key off if the block under that key says so. Where a document
can be resolved it still can with any rule switched off, whatever else the block of the rule holds,
and all other rules stay as they were.
-/
namespace CodeStyle

/-- Entries with another value in the first one that is asked for, else with a new one behind all
others. -/
def Yaml.put (isAt : Yaml × Yaml → Bool) (key value : Yaml) :
    List (Yaml × Yaml) → List (Yaml × Yaml)
  | [] => [(key, value)]
  | e :: rest => if isAt e then (e.1, value) :: rest else e :: put isAt key value rest

namespace Settings

/-- Whether a field of a block is the one that switches a rule on and off. -/
def isSwitch (field : Yaml × Yaml) : Bool :=
  match field.1.untagged with
  | .string key => key == enabledKey
  | _ => false

/-- The fields of a block with the switch off. -/
def switchOff (fields : List (Yaml × Yaml)) : List (Yaml × Yaml) :=
  Yaml.put isSwitch (.string enabledKey) (.bool false) fields

/-- A block with the switch off. What is no mapping becomes one. -/
def blockOff : Yaml → Yaml
  | .mapping fields => .mapping (switchOff fields)
  | .tagged tag value => .tagged tag (blockOff value)
  | _ => .mapping (switchOff [])

theorem untagged_blockOff (block : Yaml) : (blockOff block).untagged = blockOff block.untagged := by
  induction block using blockOff.induct with
  | case1 fields => rfl
  | case2 tag value ih => exact ih
  | case3 block hmapping htagged =>
    cases block with
    | mapping fields => exact absurd rfl (hmapping fields)
    | tagged tag value => exact absurd rfl (htagged tag value)
    | _ => rfl

variable {s s' : Settings} {before : List String} {fields : List (Yaml × Yaml)}

/-- The fields behind the switch are read in the same way whether it is on or off. -/
theorem readFields_of_enabled (h : s.readFields before fields = .ok s')
    (hread : enabledKey ∈ before) (b : Bool) :
    readFields { s with enabled := b } before fields = .ok { s' with enabled := b } := by
  induction fields generalizing s before with
  | nil => rw [← Except.ok.inj h, readFields]
  | cons field fields ih =>
    obtain ⟨key, s₁, hkey, hfield, hfields⟩ := readFields_cons_eq_ok_iff.mp h
    obtain ⟨hknown, hnew, ⟨rfl, -⟩ | ⟨hother, c, hc, rfl⟩⟩ := readField_eq_ok_iff.mp hfield
    · exact absurd hread hnew
    · have hfield' : readField { s with enabled := b } before key field.2 =
          .ok ⟨b, c⟩ := readField_eq_ok_iff.mpr ⟨hknown, hnew, .inr ⟨hother, c, hc, rfl⟩⟩
      exact readFields_cons_eq_ok_iff.mpr
        ⟨key, _, hkey, hfield', ih hfields (List.mem_cons_of_mem _ hread)⟩

theorem readField_switchOff (hnew : enabledKey ∉ before) :
    s.readField before enabledKey (.bool false) = .ok { s with enabled := false } :=
  readField_eq_ok_iff.mpr ⟨List.mem_cons_self, hnew, .inl ⟨rfl, false, rfl, rfl⟩⟩

/-- Switching a rule off changes nothing else in its settings. -/
theorem readFields_switchOff (h : s.readFields before fields = .ok s')
    (hnew : enabledKey ∉ before) :
    s.readFields before (switchOff fields) = .ok { s' with enabled := false } := by
  induction fields generalizing s before with
  | nil =>
    rw [← Except.ok.inj h]
    exact readFields_cons_eq_ok_iff.mpr ⟨_, _, rfl, readField_switchOff hnew, rfl⟩
  | cons field fields ih =>
    obtain ⟨key, s₁, hkey, hfield, hfields⟩ := readFields_cons_eq_ok_iff.mp h
    rw [switchOff, Yaml.put, isSwitch, hkey]
    -- The first switch is put off in its place, and no second one can follow it.
    obtain ⟨hknown, -, ⟨rfl, b, -, rfl⟩ | ⟨hother, -⟩⟩ := readField_eq_ok_iff.mp hfield
    · simp only [beq_self_eq_true, ↓reduceIte]
      exact readFields_cons_eq_ok_iff.mpr ⟨_, _, hkey, readField_switchOff hnew,
        readFields_of_enabled hfields List.mem_cons_self false⟩
    · simp only [beq_eq_false_iff_ne.mpr hother, Bool.false_eq_true, ↓reduceIte]
      exact readFields_cons_eq_ok_iff.mpr ⟨key, s₁, hkey, hfield,
        ih hfields (List.not_mem_cons_of_ne_of_not_mem hother.symm hnew)⟩

theorem ofBlock_blockOff {e : RuleEntry} {block : Option Yaml} (h : ofBlock e block = .ok s) :
    ofBlock e (some (blockOff (block.getD .null))) = .ok { s with enabled := false } := by
  rw [ofBlock, Option.getD_some, untagged_blockOff]
  unfold ofBlock at h
  split at h
  · rename_i hnull
    rw [hnull, ← Except.ok.inj h]
    exact readFields_switchOff rfl List.not_mem_nil
  · rename_i fields hfields
    rw [hfields]
    exact readFields_switchOff h List.not_mem_nil
  · contradiction

end Settings

/-- A rule that is switched off if it has some key. -/
def Rule.switchOff (key : String) (r : Rule) : Rule :=
  if r.key = key then { r with enabled := false } else r

namespace RuleEntry

variable {e : RuleEntry} {block : Option Yaml} {rule : Rule}

theorem build_blockOff (h : e.build block = .ok rule) :
    e.build (some (Settings.blockOff (block.getD .null))) =
      .ok { rule with enabled := false } := by
  unfold build at h
  split at h
  · contradiction
  · rename_i s hsettings
    rw [build, Settings.ofBlock_blockOff hsettings]
    have hcheckOf : e.checkOf { s with enabled := false } = e.checkOf s := rfl
    simp only [hcheckOf]
    split at h
    · rename_i check hcheck
      rw [← Except.ok.inj h]
    · contradiction

theorem key_of_build_eq_ok (h : e.build block = .ok rule) : rule.key = e.key := by
  obtain ⟨hname, hlanguage⟩ := name_and_language_of_build_eq_ok h
  rw [Rule.key, RuleEntry.key, hname, hlanguage]

end RuleEntry

namespace Config

namespace Document

/-- A document with another block under a key. -/
def set (d : Document) (key : String) (block : Yaml) : Document :=
  { d with entries := Yaml.put (isUnder key) (.string key) block d.entries }

variable {d : Document} {key other : String} {block : Yaml}

theorem isUnder_string : isUnder key (.string other, block) = (other == key) := rfl

theorem get?_set_self : (d.set key block).get? key = some block := by
  rw [get?_eq_find?, set]
  induction d.entries with
  | nil => simp [Yaml.put, isUnder_string]
  | cons e entries ih =>
    by_cases hkey : isUnder key e = true
    · have hsame : isUnder key (e.1, block) = true := hkey
      simp [Yaml.put, hkey, hsame]
    · simpa [Yaml.put, hkey] using ih

theorem get?_set_of_ne (h : other ≠ key) : (d.set key block).get? other = d.get? other := by
  rw [get?_eq_find?, get?_eq_find?, set]
  induction d.entries with
  | nil => simp [Yaml.put, isUnder_string, h.symm]
  | cons e entries ih =>
    by_cases hkey : isUnder key e = true
    · have hother : isUnder other e = false := by
        rw [← Bool.not_eq_true, isUnder_eq_true_iff, isUnder_eq_true_iff.mp hkey]
        simpa using h.symm
      have hother' : isUnder other (e.1, block) = false := hother
      simp [Yaml.put, hkey, hother, hother']
    · by_cases hother : isUnder other e = true
      · simp [Yaml.put, hkey, hother]
      · simpa [Yaml.put, hkey, hother] using ih

/-- A document that switches the rules with a key off and says the same about all else. -/
def switchOff (d : Document) (key : String) : Document :=
  d.set key (Settings.blockOff ((d.get? key).getD .null))

theorem build_switchOff {e : RuleEntry} {rule : Rule} (h : d.build e = .ok rule) :
    (d.switchOff key).build e = .ok (rule.switchOff key) := by
  rw [Rule.switchOff, RuleEntry.key_of_build_eq_ok h, build, switchOff]
  split
  · rename_i hkey
    rw [hkey, get?_set_self]
    exact RuleEntry.build_blockOff (hkey ▸ h)
  · rename_i hkey
    rw [get?_set_of_ne hkey]
    exact h

end Document

namespace RuleSet

/-- The rules that do not have a key. -/
def without (set : RuleSet) (key : String) : RuleSet :=
  ⟨set.java.filter (·.key != key), set.native.filter (·.key != key)⟩

variable {set : RuleSet} {key : String}

theorem forLanguage_without (language : Language) :
    (set.without key).forLanguage language =
      (set.forLanguage language).filter (·.key != key) := by
  cases language <;> rfl

theorem filter_enabled_map_switchOff (rules : List Rule) :
    (rules.map (Rule.switchOff key)).filter (·.enabled) =
      (rules.filter (·.enabled)).filter (·.key != key) := by
  induction rules with
  | nil => rfl
  | cons r rules ih =>
    by_cases hkey : r.key = key <;> by_cases henabled : r.enabled = true <;>
      simp [Rule.switchOff, hkey, henabled, ih]

theorem ofRules_map_switchOff (rules : List Rule) :
    ofRules (rules.map (Rule.switchOff key)) = (ofRules rules).without key := by
  rw [ofRules, filter_enabled_map_switchOff]
  exact congrArg₂ RuleSet.mk (List.filter_comm _ _ _) (List.filter_comm _ _ _)

end RuleSet

variable {registry : List RuleEntry} {d : Document} {set : RuleSet}

/-- With the rules of a key switched off, the rules of a run are the others. -/
theorem resolve_switchOff (h : resolve registry d = .ok set) (key : String) :
    resolve registry (d.switchOff key) = .ok (set.without key) := by
  rw [resolve_eq_map, Except.map_eq_ok_iff] at h
  obtain ⟨rules, hrules, rfl⟩ := h
  have hrules' : registry.mapM (d.switchOff key).build = .ok (rules.map (Rule.switchOff key)) := by
    rw [Except.mapM_eq_ok_iff, List.forall₂_map_right_iff]
    exact (Except.mapM_eq_ok_iff.mp hrules).imp fun _ _ => Document.build_switchOff
  rw [resolve_eq_map, hrules', Except.map_ok, RuleSet.ofRules_map_switchOff]

end Config

end CodeStyle

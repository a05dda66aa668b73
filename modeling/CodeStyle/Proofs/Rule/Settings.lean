import CodeStyle.Proofs.Except
import CodeStyle.Rule.Settings

/-!
# What settings leave alone

A block of a configuration changes the value of a criterion, never what the criterion is about.
Apart from the value a rule is the same with all settings: a rule about a layout is about the same
layout, and no other rule becomes one.
-/
namespace CodeStyle

namespace Criterion

/-- What a criterion is about, whatever its value. -/
def withoutValue (c : Criterion) : Criterion := (c.withText "").withNumber 0

@[simp] theorem withoutValue_withText (c : Criterion) (pattern : String) :
    (c.withText pattern).withoutValue = c.withoutValue := by
  cases c <;> rfl

@[simp] theorem withoutValue_withNumber (c : Criterion) (n : Nat) :
    (c.withNumber n).withoutValue = c.withoutValue := by
  cases c <;> rfl

/-- The layout that a criterion demands. -/
def layout? : Criterion → Option Layout
  | laying layout => some layout
  | _ => none

theorem layout?_withoutValue (c : Criterion) : c.withoutValue.layout? = c.layout? := by
  cases c <;> rfl

theorem layout?_eq_some_iff {c : Criterion} {l : Layout} : c.layout? = some l ↔ c = .laying l := by
  cases c <;> simp [layout?]

end Criterion

namespace Settings

theorem withoutValue_of_readOption {c c' : Criterion} {value : Yaml}
    (h : readOption c value = .ok c') : c'.withoutValue = c.withoutValue := by
  unfold readOption at h
  split at h
  · obtain ⟨pattern, -, rfl⟩ := Except.map_eq_ok_iff.mp h
    exact Criterion.withoutValue_withText c pattern
  · obtain ⟨n, -, rfl⟩ := Except.map_eq_ok_iff.mp h
    exact Criterion.withoutValue_withNumber c n
  · rw [Except.ok.inj h]

/-- A field of a block is read if it is known, comes up for the first time and has a value of its
type. It changes the switch or the criterion. -/
theorem readField_eq_ok_iff {s s' : Settings} {before : List String} {key : String} {value : Yaml} :
    s.readField before key value = .ok s' ↔ key ∈ keys s.criterion ∧ key ∉ before ∧
      ((key = enabledKey ∧ ∃ b, readBool value = .ok b ∧ { s with enabled := b } = s') ∨
        (key ≠ enabledKey ∧ ∃ c, readOption s.criterion value = .ok c ∧
          { s with criterion := c } = s')) := by
  unfold readField
  by_cases hknown : key ∈ keys s.criterion
  · by_cases hread : key ∈ before
    · simp [hknown, hread]
    · by_cases hswitch : key = enabledKey
      · subst hswitch
        simp [hknown, hread, Except.map_eq_ok_iff]
      · simp [hknown, hread, hswitch, Except.map_eq_ok_iff]
  · simp [hknown]

/-- The fields of a block are read one after the other. -/
theorem readFields_cons_eq_ok_iff {s s' : Settings} {before : List String} {k v : Yaml}
    {fields : List (Yaml × Yaml)} :
    s.readFields before ((k, v) :: fields) = .ok s' ↔ ∃ key s₁, k.untagged = .string key ∧
      s.readField before key v = .ok s₁ ∧ s₁.readFields (key :: before) fields = .ok s' := by
  rw [readFields]
  cases k.untagged with
  | string key => cases hfield : s.readField before key v <;> simp [hfield]
  | _ => simp

theorem withoutValue_of_readField {s s' : Settings} {before : List String} {key : String}
    {value : Yaml} (h : s.readField before key value = .ok s') :
    s'.criterion.withoutValue = s.criterion.withoutValue := by
  obtain ⟨-, -, ⟨-, b, -, rfl⟩ | ⟨-, c, hc, rfl⟩⟩ := readField_eq_ok_iff.mp h
  · rfl
  · exact withoutValue_of_readOption hc

theorem withoutValue_of_readFields {fields : List (Yaml × Yaml)} {s s' : Settings}
    {before : List String} (h : s.readFields before fields = .ok s') :
    s'.criterion.withoutValue = s.criterion.withoutValue := by
  induction fields generalizing s before with
  | nil => rw [Except.ok.inj h]
  | cons field fields ih =>
    obtain ⟨key, s₁, -, hfield, hfields⟩ := readFields_cons_eq_ok_iff.mp h
    exact (ih hfields).trans (withoutValue_of_readField hfield)

/-- A block leaves a criterion as it is registered but for its value. -/
theorem withoutValue_of_ofBlock {e : RuleEntry} {block : Option Yaml} {s : Settings}
    (h : ofBlock e block = .ok s) : s.criterion.withoutValue = e.criterion.withoutValue := by
  unfold ofBlock at h
  split at h
  · rw [← Except.ok.inj h]
  · exact withoutValue_of_readFields h
  · contradiction

end Settings

/-- A rule that is built checks the criterion of its settings. -/
theorem RuleEntry.check_eq_ok_of_build_eq_ok {e : RuleEntry} {block : Option Yaml}
    {settings : Settings} {rule : Rule} (hsettings : Settings.ofBlock e block = .ok settings)
    (h : e.build block = .ok rule) : settings.criterion.check e.language = .ok rule.check := by
  simp only [build, hsettings, checkOf] at h
  split at h
  · rename_i check hcheck
    rw [← Except.ok.inj h]
    exact hcheck
  · contradiction

/-- A rule that is built checks the criterion of its entry, with some value. -/
theorem RuleEntry.exists_check_eq_ok_of_build_eq_ok {e : RuleEntry} {block : Option Yaml}
    {rule : Rule} (h : e.build block = .ok rule) :
    ∃ c : Criterion, c.check e.language = .ok rule.check ∧
      c.withoutValue = e.criterion.withoutValue := by
  cases hsettings : Settings.ofBlock e block with
  | error fault => simp [build, hsettings] at h
  | ok s =>
    exact ⟨s.criterion, check_eq_ok_of_build_eq_ok hsettings h,
      Settings.withoutValue_of_ofBlock hsettings⟩

/-- A rule that is built checks a criterion for the layout of its entry, if that has one. -/
theorem RuleEntry.exists_criterion_of_build_eq_ok {e : RuleEntry} {block : Option Yaml}
    {rule : Rule} (h : e.build block = .ok rule) :
    ∃ c : Criterion, c.check e.language = .ok rule.check ∧ c.layout? = e.criterion.layout? := by
  obtain ⟨c, hcheck, hvalue⟩ := exists_check_eq_ok_of_build_eq_ok h
  refine ⟨c, hcheck, ?_⟩
  rw [← c.layout?_withoutValue, hvalue, Criterion.layout?_withoutValue]

end CodeStyle
